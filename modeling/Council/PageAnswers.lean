import Council.WholeSite

/-!
The page answers. From wherever the user has got, a few acts that the page
offers put a question, and if the user then only watches and the network does
not fail, the site can go on by itself until the whole debate has been rendered
under the question in the docket.
-/

namespace Council.PageAnswers

open Council.Machines
open Council.Protocol
open Council.ServerProtocol
open Council.DebateReducer
open Council.AskWire
open Council.AskText
open Council.RoundGrammar
open Council.UseDebate
open Council.EventAgreement
open Council.EventText
open Council.HandleSession
open Council.Screen
open Council.Broadcast
open Council.WholeSystem
open Council.ReadAsSaid
open Council.LeftAlone
open Council.PageShell
open Council.WholeSite

/-- What the user does asks the hook for nothing but what the hands may do, and
the network is as in a question left alone. -/
def alone (hands : HookOp → Bool) (current : Nat) (site : Site) : WholeSite.Act → Prop
  | .page act => ∀ op, asked site.app act = some op → hands op = true
  | .network act => Alone hands current site.world act

section Steps
variable {setting : Setting} {site after : Site} {hands : HookOp → Bool} {current : Nat}

theorem alone_permits {act : WholeSite.Act} (meets : alone hands current site act) :
    permits site act := by
  cases act with
  | page act => trivial
  | network act =>
      cases act with
      | deliver client => exact meets
      | _ => trivial

theorem world_alone (path : Reaches (WholeSite.step setting) (alone hands current) site after) :
    Reaches setting.step (Alone hands current) site.world after.world := by
  refine path.project Site.world ?_
  intro before act after _ meets taken
  rcases world_of_step taken with same | ⟨move, seen, moved⟩
  · exact .inl same
  · refine .inr ⟨move, ?_, moved⟩
    cases act with
    | page act =>
        rcases Option.map_eq_some_iff.mp seen with ⟨op, called, rfl⟩
        exact meets op called
    | network act =>
        cases seen
        exact meets

theorem network_step {world : World} {act : WholeSystem.Act} (own : ∀ op, act ≠ .user op)
    (moved : setting.step site.world act = some world) :
    WholeSite.step setting site (.network act) =
      some ⟨{ site.app with hook := world.hook }, world.server, world.taken⟩ := by
  have mapped : ((setting.step site.world act).map fun world =>
      (⟨{ site.app with hook := world.hook }, world.server, world.taken⟩ : Site)) =
        some ⟨{ site.app with hook := world.hook }, world.server, world.taken⟩ := by
    rw [moved]
    rfl
  cases act with
  | user op => exact absurd rfl (own op)
  | _ => exact mapped

theorem site_waits {world : World} (path : Reaches setting.step (Alone waiting current) site.world
      world) :
    ∃ later, Reaches (WholeSite.step setting) (alone waiting current) site later ∧
      later.world = world := by
  induction path with
  | refl => exact ⟨site, .refl, rfl⟩
  | @next before world act _ meets taken ih =>
      rcases ih with ⟨later, path, rfl⟩
      by_cases user : ∃ op, act = .user op
      · rcases user with ⟨op, rfl⟩
        cases op with
        | fire =>
            have fires : WholeSite.step setting later (.page .fire) =
                some { later with app := later.app.tell setting.parse .fire } := rfl
            refine ⟨_, .next path ?_ fires, ?_⟩
            · rintro op ⟨⟩
              rfl
            · cases taken
              rfl
        | _ => cases meets
      · have own : ∀ op, act ≠ .user op := fun op same => user ⟨op, same⟩
        have goes : alone waiting current later (.network act) := meets
        exact ⟨_, .next path goes (network_step own taken), rfl⟩

theorem site_led {acts : List PageShell.Act} {app later : App}
    (performed : perform (PageShell.step setting.parse) always app acts = some later)
    (byUser : ∀ act ∈ acts, act.byUser = true) (server : Nat → Session 4) (taken : Nat → Nat) :
    perform (WholeSite.step setting) permits ⟨app, server, taken⟩ (acts.map .page) =
      some ⟨later, server, taken⟩ := by
  induction acts generalizing app with
  | nil =>
      cases performed
      rfl
  | cons act rest ih =>
      rcases perform_cons performed with ⟨next, moved, goes⟩
      have led := ih goes fun other member => byUser other (List.mem_cons_of_mem act member)
      have own := byUser act List.mem_cons_self
      have mapped : WholeSite.step setting ⟨app, server, taken⟩ (.page act) =
          some ⟨next, server, taken⟩ := by
        have moves : ((PageShell.step setting.parse app act).map fun later =>
            (⟨later, server, taken⟩ : Site)) = some ⟨next, server, taken⟩ := by
          rw [moved]
          rfl
        cases act with
        | socket => cases own
        | _ => exact moves
      have permitted : permits ⟨app, server, taken⟩ (.page act) := trivial
      rw [List.map_cons, perform, if_pos permitted, mapped]
      exact led

end Steps

section Answers
variable {setting : Setting} {site : Site} {message : AskMessage} {asked_ : ClientMessage}
  {reducedMotion stageFirst soundEnabled : Bool}

theorem going_submitted {before : Site} {app : App} {question : Text} {rounds : JsNumber}
    (connected : Connected setting before.world)
    (built : buildAsk (trim question) (some rounds) = .ok message)
    (submitted : app = (before.app.handleAsk setting.parse (trim question) rounds).render) :
    Going setting message asked_ before.app.hook.clients.length
      (Site.world { before with app := app }) := by
  have same : Site.world { before with app := app } =
      setting.tell before.world (.ask (trim question) (some rounds)) := by
    rw [submitted]
    rfl
  rw [same]
  exact going_asked connected built

/-- From wherever the user has got, at most five acts that the page offers put
any question over any of the listed rounds; if the user then only watches, on a
connection that lasts and with answers of at most 43 000 runes, the site can go
on by itself, whatever has happened in between, until the page has kept the
question, which the docket of the stage names, and its rounds for the readout,
has the whole debate before the user, and tells whether the moderator has come
to a verdict. -/
theorem page_answers (decimals : Decimals setting.toNumber)
    (seats : setting.handler.personas = panel)
    (closed : ∀ event, setting.handler.closedTakes event = false)
    (reached : Reaches (WholeSite.step setting) permits
      (.start reducedMotion stageFirst soundEnabled) site)
    (question : Text) (rounds : JsNumber) (listed : rounds ∈ ROUND_OPTIONS)
    (built : buildAsk question (some rounds) = .ok message)
    (same : received message = some asked_) (valid : asked_.validate = none)
    (brief : ∀ call script, answer (setting.handler.debate asked_) call = .ok script →
      (String.join script.deltas).length ≤ 43000) :
    ∃ (acts : List PageShell.Act) (started : Site), acts.length ≤ 5 ∧
      (∀ act ∈ acts, act.byUser = true) ∧
      perform (WholeSite.step setting) permits site (acts.map .page) = some started ∧
      ∀ later, Reaches (WholeSite.step setting) (alone watching site.app.hook.clients.length)
          started later →
        ∃ final, Reaches (WholeSite.step setting) (alone waiting site.app.hook.clients.length)
            later final ∧
          final.app.question = message.question ∧ final.app.rounds = rounds ∧
          (final.app.layout.stageFirst = true →
            final.app.docket = some ⟨message.question, rounds⟩) ∧
          Shows (broadcast (setting.handler.debate asked_)) final.app.state
            (4 * (setting.handler.debate asked_).rounds) ∧
          (∀ verdict, (broadcast (setting.handler.debate asked_)).outcome = .verdict verdict →
            final.app.state.phase = .done) ∧
          ∀ reason, (broadcast (setting.handler.debate asked_)).outcome = .failure reason →
            final.app.state.phase = .error := by
  have asks : buildAsk (trim question) (some rounds) = .ok message :=
    (build_ask_trim _ _).trans built
  have read : setting.frame message = some asked_ := by
    rw [Setting.frame, read_of_built setting.fraction built]
    exact same
  -- the question is put
  rcases drafts (sane_reachable (app_reached reached)) question rounds listed with
    ⟨acts, draft, few, leads, earlier, form, opened, quiet⟩
  have drafted := site_led leads.performed leads.byUser site.server site.taken
  have count : draft.hook.clients.length = site.app.hook.clients.length := by
    rw [← length_messages, ← length_messages, earlier]
  have taken : PageShell.step setting.parse draft .submit =
      some (draft.handleAsk setting.parse (trim question) rounds).render :=
    submits form opened quiet built
  generalize shown : (draft.handleAsk setting.parse (trim question) rounds).render = asking at taken
  have submitted := Leads.act taken rfl
  have puts := site_led submitted.performed submitted.byUser site.server site.taken
  have drafting := reached.trans (perform_reaches _ _ _ drafted)
  have connected := (tuned_reachable decimals seats (world_reached drafting)).1
  have going := @going_submitted setting message asked_ ⟨draft, site.server, site.taken⟩ asking
    question rounds connected asks shown.symm
  rw [count] at going
  refine ⟨acts ++ [.submit], ⟨asking, site.server, site.taken⟩, ?_,
    (leads.trans submitted).byUser, ?_, ?_⟩
  · rw [List.length_append, List.length_singleton]
    omega
  · rw [List.map_append]
    exact perform_join drafted puts
  · intro later path
    have begun := drafting.trans (perform_reaches _ _ _ puts)
    -- whatever has happened in between, the debate goes to its end
    have still := going_reaches decimals seats valid read watching (fun _ same => same) going
      (world_alone path)
    rcases goes_to_end decimals seats closed valid read brief still with
      ⟨world, ends, last, deaf, blocked⟩
    rcases site_waits ends with ⟨played, waits, rfl⟩
    -- and is rendered
    have renders : WholeSite.step setting played (.page .render) =
        some { played with app := played.app.render } := rfl
    have goes : alone waiting site.app.hook.clients.length played (.page .render) := by
      rintro op ⟨⟩
    have final := Reaches.next waits goes renders
    have sane := sane_reachable (app_reached ((begun.trans
      (path.weaken fun _ _ meets => alone_permits meets)).trans
        (final.weaken fun _ _ meets => alone_permits meets)))
    have docket := sane.docket _ last.last
    have named : message = ⟨played.app.render.question, some played.app.render.rounds⟩ :=
      Option.some.inj (Option.some.inj (last.listed.symm.trans docket))
    have asked : message = ⟨trim question, some rounds⟩ := built_parts built
    have question_ : played.app.render.question = message.question := by rw [named]
    have rounds_ : played.app.render.rounds = rounds := by
      rw [asked] at named
      exact (Option.some.inj (congrArg AskMessage.rounds named)).symm
    refine ⟨_, final, question_, rounds_, ?_, shown_to_end last valid seats closed deaf blocked⟩
    intro stage
    rw [← question_, ← rounds_]
    refine docket_of_stage stage ?_
    rw [question_, asked, trim_trim]
    exact built_full built

end Answers

/-- On the stage the moderator's refusal comes to the page, under the question in
the docket. -/
theorem page_answers_quartet :
    ∃ (acts : List PageShell.Act) (started final : Site), acts.length ≤ 5 ∧
      perform (WholeSite.step quartet) permits (.start true true false) (acts.map .page) =
        some started ∧
      Reaches (WholeSite.step quartet) (alone waiting 0) started final ∧
      (final.app.layout.stageFirst = true →
        final.app.docket = some ⟨units "Why?", number 2⟩) ∧
      final.app.state.phase = .error := by
  have built : buildAsk (units "Why?") (some (number 2)) = .ok ⟨units "Why?", some (number 2)⟩ := by
    decide
  have same : received ⟨units "Why?", some (number 2)⟩ = some ⟨"ask", "Why?", 2⟩ := by decide
  rcases @page_answers quartet (.start true true false) _ _ true true false decimals_decimal rfl
      (fun _ => rfl) .refl (units "Why?") (number 2) (by decide) built same (by decide)
      (quartet_brief _) with
    ⟨acts, started, few, _, puts, goes⟩
  rcases goes started .refl with ⟨final, path, _, _, docket, _, _, fails⟩
  exact ⟨acts, started, final, few, puts, path, docket, fails (units "stream failed") rfl⟩

end Council.PageAnswers
