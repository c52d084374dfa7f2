import ProjectorControl.Net.Address

/-!
# Colons in addresses

Four decimal numbers hold no colon, and eight groups hold two at the least: a pair that stands for
zeros, or one in front of each group but the first.  So a text with a single colon, such as a name
and a port, is no address (`whole_readIpAddress_eq_none`).

Each reader below is described by the colons that it takes from the front of a text.
-/

namespace ProjectorControl.Net

variable {cs rest : List Char}

theorem digitValue?_colon (base : Nat) : digitValue? base ':' = none := by
  simp [digitValue?]

theorem count_colon_takeDigits (base : Nat) (cs : List Char) :
    (takeDigits base cs).2.count ':' = cs.count ':' := by
  induction cs with
  | nil => rfl
  | cons c cs ih =>
      unfold takeDigits
      split
      next digit value =>
        have other : c ≠ ':' := by
          rintro rfl
          rw [digitValue?_colon] at value
          cases value
        rw [List.count_cons_of_ne other]
        exact ih
      next => rfl

theorem count_colon_readOctet {octet : UInt8} (read : readOctet cs = some (octet, rest)) :
    rest.count ':' = cs.count ':' := by
  simp only [readOctet] at read
  split at read
  next => cases read
  next =>
    cases read
    exact count_colon_takeDigits 10 cs

theorem count_colon_readGroup {group : UInt16} (read : readGroup cs = some (group, rest)) :
    rest.count ':' = cs.count ':' := by
  simp only [readGroup] at read
  split at read
  next => cases read
  next =>
    cases read
    exact count_colon_takeDigits 16 cs

theorem eq_cons_of_readChar {expected : Char} (read : readChar expected cs = some rest) :
    cs = expected :: rest := by
  unfold readChar at read
  split at read
  next => cases read
  next =>
    split at read
    next same =>
      cases read
      rw [same]
    next => cases read

theorem count_colon_readDot (read : readChar '.' cs = some rest) :
    rest.count ':' = cs.count ':' := by
  rw [eq_cons_of_readChar read]
  rfl

theorem count_colon_readColon (read : readChar ':' cs = some rest) :
    rest.count ':' + 1 = cs.count ':' := by
  rw [eq_cons_of_readChar read, List.count_cons_self]

theorem count_colon_readIpv4 {ip : Ipv4} (read : readIpv4 cs = some (ip, rest)) :
    rest.count ':' = cs.count ':' := by
  simp only [readIpv4, bind, Option.bind_eq_some_iff, Prod.exists] at read
  obtain ⟨a, cs₁, octet₁, cs₂, dot₁, b, cs₃, octet₂, cs₄, dot₂, c, cs₅, octet₃, cs₆, dot₃, d, cs₇,
    octet₄, last⟩ := read
  cases last
  calc rest.count ':' = cs₆.count ':' := count_colon_readOctet octet₄
    _ = cs₅.count ':' := count_colon_readDot dot₃
    _ = cs₄.count ':' := count_colon_readOctet octet₃
    _ = cs₃.count ':' := count_colon_readDot dot₂
    _ = cs₂.count ':' := count_colon_readOctet octet₂
    _ = cs₁.count ':' := count_colon_readDot dot₁
    _ = cs.count ':' := count_colon_readOctet octet₁

/-- The colons in front of a group. -/
def separators (first : Bool) : Nat := if first then 0 else 1

theorem count_colon_skipSeparator {first : Bool} (skipped : skipSeparator first cs = some rest) :
    rest.count ':' + separators first = cs.count ':' := by
  cases first with
  | true =>
      cases skipped
      rfl
  | false => exact count_colon_readColon skipped

/-- What follows a separator, as it is read. -/
theorem count_colon_bind_skipSeparator {α : Type} {read : List Char → Option (α × List Char)}
    (keeps : ∀ {cs value rest}, read cs = some (value, rest) → rest.count ':' = cs.count ':')
    {first : Bool} {value : α} (found : (skipSeparator first cs).bind read = some (value, rest)) :
    rest.count ':' + separators first = cs.count ':' := by
  obtain ⟨after, skipped, got⟩ := Option.bind_eq_some_iff.mp found
  rw [keeps got]
  exact count_colon_skipSeparator skipped

/-- Behind the first group there is a colon for every group, or one for the two that four decimal
numbers stand for. -/
theorem count_colon_readGroups (room : Nat) (first : Bool) (cs : List Char) :
    (readGroups room first cs).2.count ':' ≤ cs.count ':' ∧
      (readGroups room first cs).1.1.length + 2 * separators first +
          2 * (readGroups room first cs).2.count ':' ≤ 2 * cs.count ':' + 2 := by
  have separators_le : separators first ≤ 1 := by cases first <;> decide
  induction room generalizing first cs with
  | zero =>
      refine ⟨Nat.le_refl _, ?_⟩
      simp only [readGroups, List.length_nil]
      omega
  | succ room ih =>
      simp only [readGroups]
      split
      next ip rest embedded =>
        split at embedded
        next =>
          have taken := count_colon_bind_skipSeparator count_colon_readIpv4 embedded
          have two : ip.groups.length = 2 := rfl
          dsimp only
          omega
        next => cases embedded
      next =>
        split
        next =>
          refine ⟨Nat.le_refl _, ?_⟩
          dsimp only
          rw [List.length_nil]
          omega
        next group rest found =>
          have taken := count_colon_bind_skipSeparator count_colon_readGroup found
          have behind : separators false = 1 := rfl
          have later := ih false rest (Nat.le_refl 1)
          generalize readGroups room false rest = done at later ⊢
          obtain ⟨⟨groups, decimal⟩, last⟩ := done
          dsimp only at later ⊢
          rw [List.length_cons]
          omega

/-- Eight groups hold two colons. -/
theorem count_colon_readIpv6 {ip : Ipv6} (read : readIpv6 cs = some (ip, rest)) :
    rest.count ':' + 2 ≤ cs.count ':' := by
  have front := count_colon_readGroups 8 true cs
  have none : separators true = 0 := rfl
  unfold readIpv6 at read
  generalize readGroups 8 true cs = done at front read
  obtain ⟨⟨groups, decimal⟩, middle⟩ := done
  dsimp only at front read
  split at read
  next full =>
    cases read
    omega
  next =>
    split at read
    next => cases read
    next =>
      simp only [bind, Option.bind_eq_some_iff] at read
      obtain ⟨between, colon, after, colon', found⟩ := read
      have one := count_colon_readColon colon
      have two := count_colon_readColon colon'
      have back := (count_colon_readGroups (7 - groups.length) true after).1
      generalize readGroups (7 - groups.length) true after = done at back found
      split at found
      next =>
        cases found
        omega
      next => cases found

/-- A text with a single colon is no address. -/
theorem whole_readIpAddress_eq_none (single : cs.count ':' = 1) :
    whole (readIpAddress cs) = none := by
  cases found : whole (readIpAddress cs) with
  | none => rfl
  | some ip =>
      have read : readIpAddress cs = some (ip, []) := by
        unfold whole at found
        split at found
        next used =>
          cases found
          exact used
        next => cases found
      unfold readIpAddress at read
      split at read
      next ip rest four =>
        cases read
        have kept := count_colon_readIpv4 four
        rw [single] at kept
        cases kept
      next =>
        obtain ⟨⟨ip, rest⟩, eight, same⟩ := Option.map_eq_some_iff.mp read
        cases same
        have two := count_colon_readIpv6 eight
        omega

end ProjectorControl.Net
