import Council.ClientIP

/-!
Spellings of one address behind a trusted proxy. The key is the entry as it is
spelled, so two spellings make two buckets. A dotted address has a single
spelling, since its fields have no leading zeros; an IPv6 address has several.
-/

namespace Council.AddressKeys

open Council.GoStrings
open Council.NetAddr
open Council.ClientIP

/-- A field of a dotted address in decimal. -/
def fieldText (value : Nat) : GoString :=
  if value < 10 then [UInt8.ofNat (0x30 + value)]
  else if value < 100 then
    [UInt8.ofNat (0x30 + value / 10), UInt8.ofNat (0x30 + value % 10)]
  else
    [UInt8.ofNat (0x30 + value / 100), UInt8.ofNat (0x30 + value / 10 % 10),
      UInt8.ofNat (0x30 + value % 10)]

def spelled (fields : List UInt8) : GoString :=
  fields.flatMap fun field => fieldText field.toNat ++ [dot]

theorem spelled_snoc (fields : List UInt8) (field : UInt8) :
    spelled (fields ++ [field]) = spelled fields ++ (fieldText field.toNat ++ [dot]) := by
  simp [spelled]

theorem digit_byte {byte : UInt8} (digit : isDigit byte = true) :
    byte.toNat - 0x30 < 10 ∧ byte = UInt8.ofNat (0x30 + (byte.toNat - 0x30)) := by
  simp only [isDigit, Bool.and_eq_true, decide_eq_true_eq, UInt8.le_iff_toNat_le] at digit
  have bounds : 0x30 ≤ byte.toNat ∧ byte.toNat ≤ 0x39 := digit
  constructor
  · omega
  · rw [Nat.add_sub_cancel' bounds.1, UInt8.ofNat_toNat]

theorem fieldText_snoc (value digit : Nat) (positive : 0 < value) (one : digit < 10)
    (small : value * 10 + digit ≤ 255) :
    fieldText (value * 10 + digit) = fieldText value ++ [UInt8.ofNat (0x30 + digit)] := by
  have last : (value * 10 + digit) % 10 = digit := by omega
  have front : (value * 10 + digit) / 10 = value := by omega
  unfold fieldText
  rw [if_neg (by omega), last, front]
  by_cases short : value < 10
  · rw [if_pos (by omega), if_pos short]
    rfl
  · have hundreds : (value * 10 + digit) / 100 = value / 10 := by omega
    rw [if_neg (by omega), if_neg short, if_pos (by omega), hundreds]
    rfl

/-- What the digits read so far spell. -/
def seen (value digits : Nat) : GoString := if digits = 0 then [] else fieldText value

/-- Where the field loop stands: no field so far begins with a zero it does not
consist of, and the text does not end after a dot. -/
structure Scanning (fields : List UInt8) (value digits : Nat) (text : GoString) : Prop where
  small : value ≤ 255
  empty : digits = 0 → value = 0
  zero : value = 0 → digits ≤ 1
  more : digits = 0 → fields = [] ∨ text ≠ []

section Fields

variable {fields : List UInt8} {value digits : Nat} {rest : GoString} {byte : UInt8}

theorem Scanning.value_byte {text : GoString} (scanning : Scanning fields value digits text) :
    (UInt8.ofNat value).toNat = value := by
  have small := scanning.small
  rw [UInt8.toNat_ofNat']
  exact Nat.mod_eq_of_lt (by omega)

theorem Scanning.digit (scanning : Scanning fields value digits (byte :: rest))
    (no_zero : ¬(digits = 1 ∧ value = 0)) (fits : value * 10 + (byte.toNat - 0x30) ≤ 255) :
    Scanning fields (value * 10 + (byte.toNat - 0x30)) (digits + 1) rest where
  small := fits
  empty := by omega
  zero := by
    intro none_
    have nothing : value = 0 := by omega
    have few := scanning.zero nothing
    have first : ¬ digits = 1 := fun last => no_zero ⟨last, nothing⟩
    omega
  more := by omega

theorem Scanning.seen_digit (scanning : Scanning fields value digits (byte :: rest))
    (no_zero : ¬(digits = 1 ∧ value = 0)) (fits : value * 10 + (byte.toNat - 0x30) ≤ 255)
    (digit : isDigit byte = true) :
    seen (value * 10 + (byte.toNat - 0x30)) (digits + 1) ++ rest =
      seen value digits ++ byte :: rest := by
  rcases digit_byte digit with ⟨one, same⟩
  unfold seen
  by_cases first : digits = 0
  · have nothing := scanning.empty first
    rw [if_pos first, if_neg (Nat.succ_ne_zero digits), nothing, Nat.zero_mul,
      Nat.zero_add, fieldText, if_pos one, ← same]
    rfl
  · have positive : 0 < value := by
      by_contra nothing
      have few := scanning.zero (by omega)
      exact no_zero ⟨by omega, by omega⟩
    rw [if_neg first, if_neg (Nat.succ_ne_zero digits), fieldText_snoc value _ positive one fits,
      ← same, List.append_assoc]
    rfl

theorem Scanning.dot (inside : ¬(digits = 0 ∨ rest = [])) :
    Scanning (fields ++ [UInt8.ofNat value]) 0 0 rest where
  small := Nat.zero_le _
  empty := fun _ => rfl
  zero := fun _ => Nat.zero_le _
  more := fun _ => .inr fun ended => inside (.inr ended)

theorem parse_fields_spelled (fields : List UInt8) (value digits : Nat) (text : GoString)
    (out : List UInt8) (scanning : Scanning fields value digits text)
    (parsed : parseFields fields value digits text = some out) :
    ∃ front last, out = front ++ [last] ∧
      spelled fields ++ (seen value digits ++ text) =
        spelled front ++ fieldText last.toNat := by
  induction text generalizing fields value digits with
  | nil =>
      unfold parseFields at parsed
      split at parsed
      · cases parsed
      next enough =>
        cases parsed
        have begun : digits ≠ 0 := by
          intro none_
          rcases scanning.more none_ with rfl | ended
          · exact enough (by decide)
          · exact ended rfl
        refine ⟨fields, UInt8.ofNat value, rfl, ?_⟩
        rw [scanning.value_byte, seen, if_neg begun, List.append_nil]
  | cons byte rest ih =>
      unfold parseFields at parsed
      split at parsed
      next digit =>
        split at parsed
        · cases parsed
        next no_zero =>
          simp only at parsed
          split at parsed
          · cases parsed
          next fits =>
            have kept := scanning.digit no_zero (Nat.le_of_not_lt fits)
            rcases ih fields _ _ kept parsed with ⟨front, last, split_, spells⟩
            refine ⟨front, last, split_, ?_⟩
            rw [← spells, scanning.seen_digit no_zero (Nat.le_of_not_lt fits) digit]
      next no_digit =>
        split at parsed
        next is_dot =>
          split at parsed
          · cases parsed
          next inside =>
            split at parsed
            · cases parsed
            · have begun : digits ≠ 0 := fun none_ => inside (.inl none_)
              rcases ih _ _ _ (.dot inside) parsed with ⟨front, last, split_, spells⟩
              refine ⟨front, last, split_, ?_⟩
              rw [← spells, spelled_snoc, scanning.value_byte, is_dot]
              simp [seen, begun]
        · cases parsed

end Fields

theorem parse_ipv4_injective {first second : GoString} {fields : List UInt8}
    (parsed : parseIPv4 first = some fields) (also : parseIPv4 second = some fields) :
    first = second := by
  have spelling : ∀ text, parseIPv4 text = some fields →
      ∃ front last, fields = front ++ [last] ∧ text = spelled front ++ fieldText last.toNat := by
    intro text accepted
    have start : Scanning [] 0 0 text := ⟨by decide, fun _ => rfl, by decide, fun _ => .inl rfl⟩
    exact parse_fields_spelled [] 0 0 text fields start accepted
  rcases spelling first parsed with ⟨front, last, split_, same⟩
  rcases spelling second also with ⟨other, final, again, alike⟩
  rw [split_] at again
  rcases List.append_inj' again rfl with ⟨rfl, tails⟩
  cases tails
  rw [same, alike]

theorem parse_ip_dotted {text : GoString} {address : List UInt8}
    (parsed : parseIP text = some address) (dotted : colon ∉ text) :
    ∃ fields, parseIPv4 text = some fields ∧ address = v4InV6Prefix ++ fields := by
  unfold parseIP parseAddr at parsed
  split at parsed
  next fields found =>
    split at found
    next first =>
      rcases Option.map_eq_some_iff.mp found with ⟨same, accepted, wrapped⟩
      cases wrapped
      cases parsed
      exact ⟨fields, accepted, rfl⟩
    next first =>
      rcases Option.map_eq_some_iff.mp found with ⟨other, accepted, wrong⟩
      cases wrong
    · cases found
  next addr found =>
    split at found
    next first =>
      rcases Option.map_eq_some_iff.mp found with ⟨other, accepted, wrong⟩
      cases wrong
    next first => exact absurd (List.mem_of_find?_eq_some first) dotted
    · cases found
  · cases parsed

theorem client_ip_of_entry {request : Request} {address : List UInt8}
    (parsed : parseIP (firstIP request) = some address) :
    clientIP request true = firstIP request := by
  have some_ : firstIP request ≠ [] := by
    intro empty
    rw [empty] at parsed
    cases parsed
  have given : request.get (literal "X-Forwarded-For") ≠ [] := by
    intro absent
    apply some_
    unfold firstIP
    rw [absent]
    rfl
  have kept : extractFFIP request = firstIP request := by
    unfold extractFFIP
    rw [if_neg given, if_neg (by rw [parsed]; exact nofun)]
  unfold clientIP
  rw [kept]
  exact if_pos ⟨rfl, some_⟩

/-- Two requests for one address share their key exactly when they spell it the
same, as dotted addresses always do. -/
theorem one_bucket_iff_spelled_alike (first second : Request) (address : List UInt8)
    (parsed : parseIP (firstIP first) = some address)
    (also : parseIP (firstIP second) = some address) :
    (clientIP first true = clientIP second true ↔ firstIP first = firstIP second) ∧
      (colon ∉ firstIP first → colon ∉ firstIP second →
        clientIP first true = clientIP second true) := by
  rw [client_ip_of_entry parsed, client_ip_of_entry also]
  constructor
  · exact Iff.rfl
  · intro dotted other
    rcases parse_ip_dotted parsed dotted with ⟨fields, accepted, same⟩
    rcases parse_ip_dotted also other with ⟨others, taken, alike⟩
    rw [same] at alike
    cases List.append_cancel_left alike
    exact parse_ipv4_injective accepted taken

/-- A request with this `X-Forwarded-For` header alone. -/
def forwardedFor (value : String) : Request where
  remoteAddr := literal "10.0.0.1:99"
  header name := if name = literal "X-Forwarded-For" then [literal value] else []

theorem one_bucket_iff_spelled_alike_dotted :
    (clientIP (forwardedFor "9.9.9.9, 8.8.8.8") true =
        clientIP (forwardedFor " 9.9.9.9") true ↔
      firstIP (forwardedFor "9.9.9.9, 8.8.8.8") = firstIP (forwardedFor " 9.9.9.9")) ∧
      (colon ∉ firstIP (forwardedFor "9.9.9.9, 8.8.8.8") →
        colon ∉ firstIP (forwardedFor " 9.9.9.9") →
        clientIP (forwardedFor "9.9.9.9, 8.8.8.8") true =
          clientIP (forwardedFor " 9.9.9.9") true) :=
  one_bucket_iff_spelled_alike _ _ (v4InV6Prefix ++ [9, 9, 9, 9]) (by decide) (by decide)

/-- Letter case alone makes a second bucket. -/
theorem respelled_address_new_bucket :
    ¬ ∀ (first second : Request) (address : List UInt8),
      parseIP (firstIP first) = some address → parseIP (firstIP second) = some address →
      clientIP first true = clientIP second true := by
  intro shared
  have same := shared (forwardedFor "2001:db8::1") (forwardedFor "2001:DB8::1")
    ([0x20, 0x01, 0x0D, 0xB8] ++ List.replicate 11 0 ++ [1]) (by decide) (by decide)
  exact absurd same (by decide)

end Council.AddressKeys
