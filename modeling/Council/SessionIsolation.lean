import Council.SessionPhases

/-!
An accepted `ask` starts from nothing. A hook with a past behaves from then on
like a new one with the same rate: the sockets of earlier sessions have no
handlers left, and the player and the reducer keep nothing else.
-/

namespace Council.SessionIsolation
open Protocol DebateReducer DebatePlayer PlayerRuns UseDebate SessionPhases

theorem reset_eq (first second : Player) (rate : first.rate = second.rate)
    (motion : first.reducedMotion = second.reducedMotion) : reset first = reset second := by
  simp [reset, rate, motion]

theorem player_isolation (first second : Player) (rate : first.rate = second.rate)
    (motion : first.reducedMotion = second.reducedMotion) (ops : List Op) :
    run first (.feedStatus .connecting :: ops) = run second (.feedStatus .connecting :: ops) := by
  simp only [run, apply, feedStatus, reset_eq first second rate motion]

theorem clamp_rate_playable (rate : Rate) : clampRate rate.value = rate := by
  obtain ⟨value, playable⟩ := rate
  have same : mathMin (.finite MAX_RATE) (mathMax (.finite MIN_RATE) value) = value := by
    cases value with
    | nan => rfl
    | negInf => cases playable
    | posInf => cases playable
    | finite value =>
        obtain ⟨low, high⟩ := playable
        simp only [mathMax, mathMin, if_pos low]
        split
        · rename_i above
          exact congrArg JsNumber.finite (Rat.le_antisymm above high)
        · rfl
  simp only [clampRate, same]

/-- The hook with the clients of earlier sessions put before its own. -/
def withPast (gone : List Client) (hook : Hook) : Hook :=
  { hook with
    clients := gone ++ hook.clients
    clientRef := hook.clientRef.map (gone.length + ·) }

/-- The call or event as a hook without those sessions sees it, if it does. -/
def since (old : Nat) : HookOp → Option HookOp
  | .socket client event =>
      if client < old then none else some (.socket (client - old) event)
  | op => some op

theorem modify_past (gone clients : List Client) (index : Nat) (update : Client → Client) :
    (gone ++ clients).modify (gone.length + index) update =
      gone ++ clients.modify index update := by
  induction gone with
  | nil => simp
  | cons first rest ih =>
      have next : (first :: rest).length + index = (rest.length + index) + 1 := by
        simp only [List.length_cons]
        omega
      rw [next, List.cons_append, List.modify_succ_cons, ih, List.cons_append]

section Past
variable (gone : List Client) (hook : Hook)

theorem dispose_past : (withPast gone hook).disposeClient = withPast gone hook.disposeClient := by
  cases current : hook.clientRef with
  | none => simp [Hook.disposeClient, withPast, current]
  | some index => simp [Hook.disposeClient, withPast, current, modify_past]

theorem absorb_past (answer : Player × List DebateInput) :
    (withPast gone hook).absorb answer =
      (withPast gone (hook.absorb answer).1, (hook.absorb answer).2) := rfl

theorem client_ask_past (index : Nat) (question : Text) (rounds : Option JsNumber) :
    clientAsk (withPast gone hook) (gone.length + index) question rounds =
      (withPast gone (clientAsk hook index question rounds).1,
        (clientAsk hook index question rounds).2) := by
  have same : (withPast gone hook).clients[gone.length + index]? = hook.clients[index]? := by
    change (gone ++ hook.clients)[gone.length + index]? = _
    rw [List.getElem?_append_right (Nat.le_add_right _ _), Nat.add_sub_cancel_left]
  unfold clientAsk
  cases buildAsk question rounds with
  | error message => exact absorb_past gone hook _
  | ok built =>
      simp only [same]
      split
      · exact absorb_past gone hook _
      · simp only [absorb_past]
        simp [withPast, modify_past]

theorem ask_past (question : Text) (rounds : Option JsNumber) :
    ask (withPast gone hook) question rounds =
      (withPast gone (ask hook question rounds).1, (ask hook question rounds).2) := by
  have fresh := client_ask_past gone
    { hook.disposeClient with
      player := reset hook.disposeClient.player
      clients := hook.disposeClient.clients ++ [createWsClient]
      clientRef := some hook.disposeClient.clients.length }
    hook.disposeClient.clients.length question rounds
  unfold ask
  rw [dispose_past]
  simpa [withPast] using fresh

theorem stop_past : stop (withPast gone hook) =
    (withPast gone (stop hook).1, (stop hook).2) := by
  unfold stop
  simp only [absorb_past, dispose_past]
  rfl

end Past

section Runs
variable (parseEvent : Text → Except Text DebateEvent) (gone : List Client)

theorem past_socket (silent : ∀ client ∈ gone, client.attached = false) (hook : Hook)
    (index : Nat) (past : index < gone.length) (event : SocketEvent) :
    onSocket parseEvent (withPast gone hook) index event = (withPast gone hook, []) := by
  have found : (withPast gone hook).clients[index]? = some gone[index] := by
    change (gone ++ hook.clients)[index]? = _
    rw [List.getElem?_append_left past, List.getElem?_eq_getElem past]
  simp [onSocket, found, silent gone[index] (List.getElem_mem past)]

theorem present_socket (hook : Hook) (index : Nat) (event : SocketEvent) :
    onSocket parseEvent (withPast gone hook) (gone.length + index) event =
      (withPast gone (onSocket parseEvent hook index event).1,
        (onSocket parseEvent hook index event).2) := by
  have same : (withPast gone hook).clients[gone.length + index]? = hook.clients[index]? := by
    change (gone ++ hook.clients)[gone.length + index]? = _
    rw [List.getElem?_append_right (Nat.le_add_right _ _), Nat.add_sub_cancel_left]
  unfold onSocket
  rw [same]
  cases hook.clients[index]? with
  | none => rfl
  | some client =>
      simp only
      split
      · rfl
      · cases event with
        | opened =>
            simp only [absorb_past]
            simp [withPast, modify_past]
        | message frame => exact absorb_past gone hook _
        | error => exact absorb_past gone hook _
        | close =>
            simp only [absorb_past]
            simp [withPast, modify_past]

theorem step_past (silent : ∀ client ∈ gone, client.attached = false) (hook : Hook)
    (op : HookOp) :
    hookStep parseEvent (withPast gone hook) op =
      match since gone.length op with
      | none => (withPast gone hook, [])
      | some present => (withPast gone (hookStep parseEvent hook present).1,
          (hookStep parseEvent hook present).2) := by
  cases op with
  | ask question rounds => exact ask_past gone hook question rounds
  | stop => exact stop_past gone hook
  | setRate multiplier => rfl
  | goToLive => rfl
  | fire => rfl
  | socket client event =>
      by_cases past : client < gone.length
      · simp only [since, if_pos past]
        exact past_socket parseEvent gone silent hook client past event
      · obtain ⟨index, rfl⟩ := Nat.exists_eq_add_of_le (Nat.le_of_not_lt past)
        simp only [since, if_neg past, Nat.add_sub_cancel_left]
        exact present_socket parseEvent gone hook index event

theorem run_past (silent : ∀ client ∈ gone, client.attached = false) (hook : Hook)
    (ops : List HookOp) :
    runHook parseEvent (withPast gone hook) ops =
      (withPast gone (runHook parseEvent hook (ops.filterMap (since gone.length))).1,
        (runHook parseEvent hook (ops.filterMap (since gone.length))).2) := by
  induction ops generalizing hook with
  | nil => rfl
  | cons op rest ih =>
      have first := step_past parseEvent gone silent hook op
      rw [runHook, first]
      cases seen : since gone.length op with
      | none => simp only [List.filterMap_cons_none seen, ih, List.nil_append]
      | some present => simp only [List.filterMap_cons_some seen, runHook, ih]

def freshHook (hook : Hook) : Hook :=
  (hookStep parseEvent (createHook hook.player.reducedMotion)
    (.setRate hook.player.rate.value)).1

theorem dispose_length (hook : Hook) :
    hook.disposeClient.clients.length = hook.clients.length := by
  unfold Hook.disposeClient
  split
  · rfl
  · simp

/-- After an accepted `ask` a hook with any history, in which sockets of
earlier sessions may still fire, gives the reducer the same inputs and reaches
the same states as a fresh hook with the same rate that has only the sockets
opened since. Of the player alone the same holds after
`feedStatus("connecting")`. -/
theorem session_isolation (reducedMotion : Bool) (history : List HookOp) (question : Text)
    (rounds : Option JsNumber) (asked : (HookOp.ask question rounds).accepted = true)
    (later : List HookOp) :
    let hook := (runHook parseEvent (createHook reducedMotion) history).1
    let isolated := later.filterMap (since hook.clients.length)
    let resumed := runHook parseEvent hook (.ask question rounds :: later)
    let fresh := runHook parseEvent (freshHook parseEvent hook)
      (.ask question rounds :: isolated)
    (resumed.2 = fresh.2 ∧ resumed.1.state = fresh.1.state) ∧
    ∀ (first second : Player), first.rate = second.rate →
      first.reducedMotion = second.reducedMotion → ∀ ops : List Op,
        run first (.feedStatus .connecting :: ops) =
          run second (.feedStatus .connecting :: ops) := by
  intro hook isolated resumed fresh
  refine ⟨?_, player_isolation⟩
  have exclusive := exclusive_run parseEvent (exclusive_create reducedMotion) history
  obtain ⟨message, built⟩ := accepted_built question rounds asked
  have silent := deaf_dispose exclusive
  have begun : ask hook question rounds =
      (withPast hook.disposeClient.clients (ask (freshHook parseEvent hook) question rounds).1,
        (ask (freshHook parseEvent hook) question rounds).2) := by
    have same : reset (reset hook.player) = reset (reset (freshHook parseEvent hook).player) := by
      refine reset_eq _ _ ?_ rfl
      exact (clamp_rate_playable hook.player.rate).symm
    rw [ask_accepted hook question rounds message built,
      ask_accepted (freshHook parseEvent hook) question rounds message built, same]
    rfl
  have run := run_past parseEvent hook.disposeClient.clients silent
    (ask (freshHook parseEvent hook) question rounds).1 later
  rw [dispose_length] at run
  have whole : resumed = (withPast hook.disposeClient.clients fresh.1, fresh.2) := by
    simp only [resumed, fresh, isolated, runHook, hookStep, begun, run]
  rw [whole]
  exact ⟨rfl, rfl⟩

end Runs

/-- A session stopped before its socket opened, whose socket then opens and
closes during the next one. -/
theorem session_isolation_late_close :
    let history : List HookOp := [.setRate (.finite 2), .ask (units "Why?") none, .stop]
    let later : List HookOp := [.socket 0 .opened, .socket 1 .opened, .socket 0 .close, .fire]
    let parseEvent : Text → Except Text DebateEvent := fun message => .error message
    let hook := (runHook parseEvent (createHook true) history).1
    let isolated := later.filterMap (since hook.clients.length)
    let resumed := runHook parseEvent hook (.ask (units "How?") none :: later)
    let fresh := runHook parseEvent (freshHook parseEvent hook)
      (.ask (units "How?") none :: isolated)
    (resumed.2 = fresh.2 ∧ resumed.1.state = fresh.1.state) ∧
    ∀ (first second : Player), first.rate = second.rate →
      first.reducedMotion = second.reducedMotion → ∀ ops : List Op,
        run first (.feedStatus .connecting :: ops) =
          run second (.feedStatus .connecting :: ops) :=
  session_isolation (fun message => .error message) true _ (units "How?") none
    (by decide) _

end Council.SessionIsolation
