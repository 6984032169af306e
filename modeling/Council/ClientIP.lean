import Council.NetAddr

/-!
The key of a client (`httpx/clientip.go`). Directly exposed, it is the host of
the peer and nothing a client sends; behind a trusted proxy it is the leftmost
`X-Forwarded-For` entry, kept as it is spelled once `net.ParseIP` accepts it.
-/

namespace Council.ClientIP

open Council.GoStrings
open Council.NetAddr

structure Request where
  remoteAddr : GoString
  /-- The values of each header, by canonical name. -/
  header : GoString → List GoString

/-- `Header.Get`: the first value, if there is one. -/
def Request.get (request : Request) (name : GoString) : GoString :=
  (request.header name).head?.getD []

def unknownIP : GoString := literal "unknown"

def comma : UInt8 := 0x2C

def firstIP (request : Request) : GoString :=
  trimSpace ((split comma (request.get (literal "X-Forwarded-For"))).head?.getD [])

def extractFFIP (request : Request) : GoString :=
  if request.get (literal "X-Forwarded-For") = [] then []
  else if parseIP (firstIP request) = none then []
  else firstIP request

/-- The key taken from `RemoteAddr`. -/
def remoteKey (remoteAddr : GoString) : GoString :=
  let rawAddr := trimSpace remoteAddr
  if rawAddr = [] then unknownIP
  else
    match splitHostPort rawAddr with
    | .ok (host, _) => if host ≠ [] then host else rawAddr
    | .error _ => rawAddr

def clientIP (request : Request) (trustProxy : Bool) : GoString :=
  if trustProxy ∧ extractFFIP request ≠ [] then extractFFIP request
  else remoteKey request.remoteAddr

/-- `RemoteAddr` as `net/http` sets it: the host of the peer, an IPv6 host and
its zone in brackets, and the port. -/
inductive Peer (host : GoString) : GoString → Prop where
  | ipv4 (port : GoString) (some_ : host ≠ [])
      (dotted : ∀ byte ∈ host, isDigit byte = true ∨ byte = dot)
      (digits : ∀ byte ∈ port, isDigit byte = true) :
      Peer host (host ++ [colon] ++ port)
  | ipv6 (port : GoString) (some_ : host ≠ [])
      (plain : ∀ byte ∈ host, byte ≠ openBracket ∧ byte ≠ closeBracket)
      (digits : ∀ byte ∈ port, isDigit byte = true) :
      Peer host ([openBracket] ++ host ++ [closeBracket, colon] ++ port)

/-- Printable ASCII, the space apart. -/
def Printed (byte : UInt8) : Prop := 0x20 < byte.toNat ∧ byte.toNat < 0x80

theorem printed_digit {byte : UInt8} (digit : isDigit byte = true) : Printed byte := by
  simp only [isDigit, Bool.and_eq_true, decide_eq_true_eq, UInt8.le_iff_toNat_le] at digit
  have bounds : 0x30 ≤ byte.toNat ∧ byte.toNat ≤ 0x39 := digit
  constructor <;> omega

theorem printed_not_space {byte : UInt8} (printed : Printed byte) : space byte = false := by
  rw [← Bool.not_eq_true]
  intro white
  simp only [space, Bool.or_eq_true, Bool.and_eq_true, decide_eq_true_eq, beq_iff_eq,
    UInt8.le_iff_toNat_le] at white
  rcases white with ⟨-, small⟩ | rfl
  · have bound : byte.toNat ≤ 13 := small
    exact absurd printed.1 (by omega)
  · exact absurd printed.1 (by decide)

theorem not_leads {byte : UInt8} (printed : Printed byte) (rest : GoString) :
    ¬ LeadsSpace (byte :: rest) := by
  intro leads
  cases leads with
  | one white =>
      rw [printed_not_space printed] at white
      cases white
  | two white =>
      simp only [space2, Bool.and_eq_true, beq_iff_eq] at white
      rcases white with ⟨rfl, -⟩
      exact absurd printed.2 (by decide)
  | three white =>
      simp only [space3, Bool.or_eq_true, Bool.and_eq_true, beq_iff_eq] at white
      rcases white with ((⟨⟨rfl, -⟩, -⟩ | ⟨⟨rfl, -⟩, -⟩) | ⟨⟨rfl, -⟩, -⟩) | ⟨⟨rfl, -⟩, -⟩
      all_goals exact absurd printed.2 (by decide)

theorem not_trails {byte : UInt8} (printed : Printed byte) (front : GoString) :
    ¬ TrailsSpace (front ++ [byte]) := by
  unfold TrailsSpace
  rw [List.reverse_append, List.reverse_singleton, List.singleton_append]
  generalize front.reverse = back
  intro leads
  cases leads with
  | one white =>
      rw [printed_not_space printed] at white
      cases white
  | two white =>
      simp only [space2, Bool.and_eq_true, Bool.or_eq_true, beq_iff_eq] at white
      rcases white with ⟨-, rfl | rfl⟩
      all_goals exact absurd printed.2 (by decide)
  | three white =>
      have late : 0x80 ≤ byte.toNat := by
        simp only [space3, Bool.or_eq_true, Bool.and_eq_true, beq_iff_eq, decide_eq_true_eq,
          UInt8.le_iff_toNat_le] at white
        rcases white with ((⟨-, rfl⟩ | ⟨-, (⟨⟨large, -⟩ | rfl⟩ | rfl) | rfl⟩) | ⟨-, rfl⟩) | ⟨-, rfl⟩
        · decide
        · exact large
        all_goals decide
      exact absurd printed.2 (by omega)

theorem index_byte_append {front : GoString} {byte : UInt8} (rest : GoString)
    (absent : byte ∉ front) : indexByte (front ++ byte :: rest) byte = some front.length := by
  unfold indexByte
  rw [List.findIdx?_append, List.findIdx?_eq_none_iff.mpr]
  · simp [List.findIdx?_cons]
  · intro other member
    have apart : other ≠ byte := by
      rintro rfl
      exact absent member
    simpa using apart

theorem last_index_byte {rest : GoString} {byte : UInt8} (front : GoString)
    (absent : byte ∉ rest) :
    lastIndexByte (front ++ byte :: rest) byte = some front.length := by
  have back : indexByte (front ++ byte :: rest).reverse byte = some rest.length := by
    rw [List.reverse_append, List.reverse_cons, List.append_assoc, List.singleton_append,
      index_byte_append _ (by simpa using absent), List.length_reverse]
  unfold lastIndexByte
  rw [back]
  simp only [Option.map_some, List.length_append, List.length_cons]
  congr 1
  omega

section Hosts

variable {host port : GoString}

theorem port_plain {byte : UInt8} (digits : ∀ byte ∈ port, isDigit byte = true)
    (delimiter : isDigit byte = false) : byte ∉ port := by
  intro member
  rw [digits byte member] at delimiter
  cases delimiter

theorem split_ipv4 (dotted : ∀ byte ∈ host, isDigit byte = true ∨ byte = dot)
    (digits : ∀ byte ∈ port, isDigit byte = true) :
    splitHostPort (host ++ [colon] ++ port) = .ok (host, port) := by
  have clear : ∀ byte, isDigit byte = false → byte ≠ dot → byte ∉ host := by
    intro byte delimiter apart member
    rcases dotted byte member with digit | same
    · rw [digit] at delimiter
      cases delimiter
    · exact apart same
  have whole : ∀ byte, isDigit byte = false → byte ≠ dot → byte ≠ colon →
      byte ∉ host ++ colon :: port := by
    intro byte delimiter apart other member
    rcases List.mem_append.mp member with inHost | later
    · exact clear byte delimiter apart inHost
    rcases List.mem_cons.mp later with same | inPort
    · exact other same
    · exact port_plain digits delimiter inPort
  have last := last_index_byte host (port_plain digits (by decide : isDigit colon = false))
  have unopened := whole openBracket (by decide) (by decide) (by decide)
  have unclosed := whole closeBracket (by decide) (by decide) (by decide)
  have first : (host ++ colon :: port).head? ≠ some openBracket := by
    intro same
    exact unopened (List.mem_of_mem_head? same)
  have alone : colon ∉ (host ++ colon :: port).take host.length := by
    rw [List.take_left]
    exact clear colon (by decide) (by decide)
  rw [List.append_assoc, List.singleton_append]
  unfold splitHostPort
  rw [last]
  simp only
  rw [if_neg first, if_neg alone, if_neg unopened, if_neg unclosed, List.take_left]
  simp

theorem split_ipv6 (plain : ∀ byte ∈ host, byte ≠ openBracket ∧ byte ≠ closeBracket)
    (digits : ∀ byte ∈ port, isDigit byte = true) :
    splitHostPort ([openBracket] ++ host ++ [closeBracket, colon] ++ port) =
      .ok (host, port) := by
  have shape : [openBracket] ++ host ++ [closeBracket, colon] ++ port =
      (openBracket :: (host ++ [closeBracket])) ++ colon :: port := by simp
  have inner : openBracket :: (host ++ [closeBracket]) ++ colon :: port =
      (openBracket :: host) ++ closeBracket :: (colon :: port) := by simp
  have last := last_index_byte (openBracket :: (host ++ [closeBracket]))
    (port_plain digits (by decide : isDigit colon = false))
  have stop : indexByte (openBracket :: (host ++ [closeBracket]) ++ colon :: port)
      closeBracket = some (host.length + 1) := by
    rw [inner, index_byte_append]
    · simp
    · intro member
      rcases List.mem_cons.mp member with same | inHost
      · exact absurd same (by decide)
      · exact (plain closeBracket inHost).2 rfl
  have unopened : openBracket ∉
      (openBracket :: (host ++ [closeBracket]) ++ colon :: port).drop 1 := by
    simp only [List.cons_append, List.drop_succ_cons, List.drop_zero, List.append_assoc,
      List.mem_append, List.mem_cons, not_or]
    constructor
    · intro inHost
      exact (plain openBracket inHost).1 rfl
    · exact ⟨by decide, by decide, by decide, port_plain digits (by decide)⟩
  have unclosed : closeBracket ∉
      (openBracket :: (host ++ [closeBracket]) ++ colon :: port).drop (host.length + 1 + 1) := by
    have rest : (openBracket :: (host ++ [closeBracket]) ++ colon :: port).drop
        (host.length + 1 + 1) = colon :: port := List.drop_left' (by simp)
    rw [rest]
    simp only [List.mem_cons, not_or]
    exact ⟨by decide, port_plain digits (by decide)⟩
  have longer : host.length + 1 + 1 ≠
      (openBracket :: (host ++ [closeBracket]) ++ colon :: port).length := by
    simp only [List.cons_append, List.length_cons, List.length_append, List.length_nil]
    omega
  have before : host.length + 1 + 1 = (openBracket :: (host ++ [closeBracket])).length := by simp
  rw [shape]
  unfold splitHostPort
  rw [last]
  simp only
  rw [if_pos (by rfl), stop]
  simp only
  rw [if_neg longer, if_neg (not_not_intro before), if_neg unopened, if_neg unclosed]
  simp

theorem port_not_trails (front : GoString) (digits : ∀ byte ∈ port, isDigit byte = true) :
    ¬ TrailsSpace (front ++ colon :: port) := by
  rcases List.eq_nil_or_concat port with rfl | ⟨more, last, rfl⟩
  · exact not_trails (by decide : 0x20 < colon.toNat ∧ colon.toNat < 0x80) front
  · have digit := digits last (by simp)
    rw [List.concat_eq_append, ← List.cons_append, ← List.append_assoc]
    exact not_trails (printed_digit digit) (front ++ colon :: more)

theorem remote_key_split {remoteAddr : GoString} (some_ : host ≠ [])
    (front : ¬ LeadsSpace remoteAddr) (back : ¬ TrailsSpace remoteAddr)
    (parts : splitHostPort remoteAddr = .ok (host, port)) : remoteKey remoteAddr = host := by
  have longer : remoteAddr ≠ [] := by
    rintro rfl
    cases parts
  unfold remoteKey
  rw [trim_space_of_clear front back]
  simp only [if_neg longer, parts]
  exact if_pos some_

theorem remote_key_peer {remoteAddr : GoString} (peer : Peer host remoteAddr) :
    remoteKey remoteAddr = host ∧ host ≠ [] := by
  cases peer with
  | ipv4 port some_ dotted digits =>
      have front : ¬ LeadsSpace (host ++ [colon] ++ port) := by
        cases host with
        | nil => exact absurd rfl some_
        | cons first more =>
            rcases dotted first List.mem_cons_self with digit | same
            · exact not_leads (printed_digit digit) _
            · rw [same]
              exact not_leads (by decide : 0x20 < dot.toNat ∧ dot.toNat < 0x80) _
      have back : ¬ TrailsSpace (host ++ [colon] ++ port) := by
        rw [List.append_assoc]
        exact port_not_trails host digits
      exact ⟨remote_key_split some_ front back (split_ipv4 dotted digits), some_⟩
  | ipv6 port some_ plain digits =>
      have front : ¬ LeadsSpace ([openBracket] ++ host ++ [closeBracket, colon] ++ port) :=
        not_leads (by decide : 0x20 < openBracket.toNat ∧ openBracket.toNat < 0x80) _
      have back : ¬ TrailsSpace ([openBracket] ++ host ++ [closeBracket, colon] ++ port) := by
        have shape : [openBracket] ++ host ++ [closeBracket, colon] ++ port =
            ([openBracket] ++ host ++ [closeBracket]) ++ colon :: port := by simp
        rw [shape]
        exact port_not_trails _ digits
      exact ⟨remote_key_split some_ front back (split_ipv6 plain digits), some_⟩

end Hosts

theorem remote_key_some (remoteAddr : GoString) : remoteKey remoteAddr ≠ [] := by
  unfold remoteKey
  simp only
  split
  · decide
  next longer =>
    split
    next host port parts =>
      split
      · assumption
      · exact longer
    · exact longer

theorem extract_of_not_ip {request : Request} (foreign : parseIP (firstIP request) = none) :
    extractFFIP request = [] := by
  unfold extractFFIP
  rw [if_pos foreign]
  split <;> rfl

/-- A client cannot choose its key. Untrusted, the key is the host of the peer
for any port and any headers, so peers share one exactly when they share their
host; no request has an empty key; and behind a trusted proxy a leftmost entry
that is no IP counts for nothing. -/
theorem client_key_unforgeable :
    (∀ (host : GoString) (first second : Request),
      Peer host first.remoteAddr → Peer host second.remoteAddr →
      clientIP first false = clientIP second false ∧ clientIP first false ≠ []) ∧
    (∀ (host other : GoString) (first second : Request),
      Peer host first.remoteAddr → Peer other second.remoteAddr → host ≠ other →
      clientIP first false ≠ clientIP second false) ∧
    (∀ (request : Request) (trustProxy : Bool), clientIP request trustProxy ≠ []) ∧
    (∀ first second : Request, first.remoteAddr = second.remoteAddr →
      parseIP (firstIP first) = none → parseIP (firstIP second) = none →
      clientIP first true = clientIP second true) := by
  have direct : ∀ request : Request,
      clientIP request false = remoteKey request.remoteAddr := fun request =>
    if_neg fun trusted => Bool.noConfusion trusted.1
  constructor
  · intro host first second peer other
    rw [direct first, direct second, (remote_key_peer peer).1, (remote_key_peer other).1]
    exact ⟨rfl, (remote_key_peer peer).2⟩
  constructor
  · intro host other first second peer also apart
    rw [direct first, direct second, (remote_key_peer peer).1, (remote_key_peer also).1]
    exact apart
  constructor
  · intro request trustProxy
    unfold clientIP
    split
    next forwarded => exact forwarded.2
    · exact remote_key_some request.remoteAddr
  · intro first second same foreign also
    unfold clientIP
    rw [if_neg fun trusted => trusted.2 (extract_of_not_ip foreign),
      if_neg fun trusted => trusted.2 (extract_of_not_ip also), same]

/-- A request of the peer with this `X-Forwarded-For` header. -/
def claiming (remoteAddr value : String) : Request where
  remoteAddr := literal remoteAddr
  header name := if name = literal "X-Forwarded-For" then [literal value] else []

theorem client_key_unforgeable_peers :
    clientIP (claiming "[fe80::1%eth0]:80" "1.1.1.1") false =
        clientIP (claiming "[fe80::1%eth0]:8080" "2.2.2.2") false ∧
      clientIP (claiming "10.0.0.1:80" "1.1.1.1") false ≠
        clientIP (claiming "10.0.0.2:80" "1.1.1.1") false ∧
      clientIP (claiming "10.0.0.1:80" "me, 1.1.1.1") true =
        clientIP (claiming "10.0.0.1:80" "you") true := by
  have plain : ∀ byte ∈ literal "fe80::1%eth0", byte ≠ openBracket ∧ byte ≠ closeBracket := by
    intro byte member
    have all : (literal "fe80::1%eth0").all
        (fun byte => byte != openBracket && byte != closeBracket) = true := by decide
    simpa using List.all_eq_true.mp all byte member
  have inBrackets : ∀ port, (literal port).all isDigit = true →
      Peer (literal "fe80::1%eth0")
        ([openBracket] ++ literal "fe80::1%eth0" ++ [closeBracket, colon] ++ literal port) :=
    fun port digits => .ipv6 (literal port) (by decide) plain (List.all_eq_true.mp digits)
  have dotted : ∀ host, (literal host).all (fun byte => isDigit byte || byte == dot) = true →
      literal host ≠ [] → Peer (literal host) (literal host ++ [colon] ++ literal "80") := by
    intro host digits some_
    refine .ipv4 (literal "80") some_ ?_ (List.all_eq_true.mp (by decide))
    intro byte member
    simpa using List.all_eq_true.mp digits byte member
  have first : Peer (literal "10.0.0.1") (literal "10.0.0.1:80") :=
    dotted "10.0.0.1" (by decide) (by decide)
  have second : Peer (literal "10.0.0.2") (literal "10.0.0.2:80") :=
    dotted "10.0.0.2" (by decide) (by decide)
  refine ⟨?_, ?_, ?_⟩
  · exact (client_key_unforgeable.1 _ _ _ (inBrackets "80" (by decide))
      (inBrackets "8080" (by decide))).1
  · exact client_key_unforgeable.2.1 _ _ _ _ first second (by decide)
  · exact client_key_unforgeable.2.2.2 _ _ rfl (by decide) (by decide)

end Council.ClientIP
