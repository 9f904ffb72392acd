import CableMap.Address.Ipv4
import CableMap.Proofs.Text.Blank
import CableMap.Proofs.Text.Decimal
import Mathlib.Data.List.Forall2

/-!
# IPv4 addresses as numbers and as texts

The four octets of an address are the digits of its number to the base 256, so no two addresses
have one number, and an address is found again from its number. An address has one text, which is
the only one that is read as it.
-/
namespace CableMap.Ipv4

/-- The octets of an address are the digits of its number. -/
theorem toNat_eq (address : Ipv4) :
    address.toNat = 256 * (256 * (256 * address.a.toNat + address.b.toNat) + address.c.toNat) +
      address.d.toNat := by
  simp [toNat, octets]

/-- No two addresses have one number. -/
theorem toNat_inj {left right : Ipv4} : left.toNat = right.toNat ↔ left = right := by
  constructor
  · intro same
    rw [toNat_eq, toNat_eq] at same
    have bounds : ∀ octet : UInt8, octet.toNat < 256 := UInt8.toNat_lt
    have d : left.d.toNat = right.d.toNat := by
      have leftBound := bounds left.d
      have rightBound := bounds right.d
      omega
    have c : left.c.toNat = right.c.toNat := by
      have leftBound := bounds left.c
      have rightBound := bounds right.c
      omega
    have b : left.b.toNat = right.b.toNat := by
      have leftBound := bounds left.b
      have rightBound := bounds right.b
      omega
    have a : left.a.toNat = right.a.toNat := by omega
    cases left
    cases right
    rw [Ipv4.mk.injEq]
    exact ⟨UInt8.toNat_inj.1 a, UInt8.toNat_inj.1 b, UInt8.toNat_inj.1 c, UInt8.toNat_inj.1 d⟩
  · exact fun same => congrArg _ same

/-- The number of an address has 32 bits. -/
theorem toNat_lt (address : Ipv4) : address.toNat < 0x100000000 := by
  have a := address.a.toNat_lt
  have b := address.b.toNat_lt
  have c := address.c.toNat_lt
  have d := address.d.toNat_lt
  rw [toNat_eq]
  omega

/-- An address is the one of its number. -/
theorem ofNat_toNat (address : Ipv4) : ofNat address.toNat = address := by
  have digits := toNat_eq address
  have a := address.a.toNat_lt
  have b := address.b.toNat_lt
  have c := address.c.toNat_lt
  have d := address.d.toNat_lt
  -- Each octet is what is left of the number after the octets behind it are divided away.
  have octet (n : Nat) (value : UInt8) (same : n % 256 = value.toNat) : UInt8.ofNat n = value := by
    rw [← UInt8.toNat_inj, UInt8.toNat_ofNat']
    exact same
  unfold ofNat
  rw [octet _ address.a (by omega), octet _ address.b (by omega), octet _ address.c (by omega),
    octet _ address.d (by omega)]

/-- An octet is read from its shortest decimal form and from no other text. -/
theorem octet?_eq_some_iff {text : List Char} {octet : UInt8} :
    octet? text = some octet ↔ text = Nat.toDigits 10 octet.toNat := by
  constructor
  · intro read
    obtain ⟨n, written, rfl⟩ := Option.map_eq_some_iff.mp read
    have ⟨_, shortest⟩ := Option.filter_eq_some_iff.mp written
    simp only [Bool.and_eq_true, decide_eq_true_eq, beq_iff_eq] at shortest
    rw [UInt8.toNat_ofNat', Nat.mod_eq_of_lt shortest.1, shortest.2]
  · rintro rfl
    have small := octet.toNat_lt
    rw [octet?, Text.natural?_toDigits, Option.filter_some, if_pos (by simpa using small),
      Option.map_some, UInt8.ofNat_toNat]

/-- Between the dots of an address stand the decimal forms of its octets. -/
theorem splitOn_chars (address : Ipv4) :
    address.chars.splitOn '.' = address.octets.map fun octet => Nat.toDigits 10 octet.toNat := by
  refine List.splitOn_intercalate '.' (fun piece inside dotted => ?_) (List.cons_ne_nil _ _)
  obtain ⟨octet, _, rfl⟩ := List.mem_map.mp inside
  exact absurd (Text.isDigit_toDigits octet.toNat '.' dotted) (by decide)

/-- An address is read if each piece between dots is read as one of its octets. -/
theorem ofChars?_eq_some_iff_octets {text : List Char} {address : Ipv4} :
    ofChars? text = some address ↔ (text.splitOn '.').map octet? = address.octets.map some := by
  constructor
  · intro read
    unfold ofChars? at read
    split at read
    · rename_i octets
      cases read
      exact octets
    · cases read
  · intro octets
    rw [ofChars?, octets]
    rfl

/-- An address is read from its dotted decimal form and from no other text. -/
theorem ofChars?_eq_some_iff {text : List Char} {address : Ipv4} :
    ofChars? text = some address ↔ text = address.chars := by
  have pieces : (text.splitOn '.').map octet? = address.octets.map some ↔
      text.splitOn '.' = address.octets.map fun octet => Nat.toDigits 10 octet.toNat := by
    rw [← List.forall₂_eq_eq_eq, ← List.forall₂_eq_eq_eq, List.forall₂_map_left_iff,
      List.forall₂_map_right_iff, List.forall₂_map_right_iff]
    simp only [octet?_eq_some_iff]
  rw [ofChars?_eq_some_iff_octets, pieces]
  constructor
  · intro same
    rw [chars, ← same, List.intercalate_splitOn]
  · rintro rfl
    exact address.splitOn_chars

/-- The text of an address holds digits, and dots between them. -/
theorem mem_chars {address : Ipv4} {c : Char} (inside : c ∈ address.chars) :
    c = '.' ∨ c.isDigit = true := by
  rcases Text.mem_of_mem_intercalate inside with mark | ⟨piece, among, found⟩
  · exact .inl (List.mem_singleton.mp mark)
  · obtain ⟨octet, _, rfl⟩ := List.mem_map.mp among
    exact .inr (Text.isDigit_toDigits octet.toNat c found)

/-- The text of an address has a dot in it. -/
theorem dot_mem_chars (address : Ipv4) : '.' ∈ address.chars := by
  by_contra undotted
  -- Without a dot there would be one piece.
  have pieces := address.splitOn_chars
  rw [List.splitOn_eq_singleton undotted] at pieces
  have one := congrArg List.length pieces
  simp [octets] at one

end CableMap.Ipv4
