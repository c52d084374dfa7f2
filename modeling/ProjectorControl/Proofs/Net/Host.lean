import Mathlib.Data.List.DropRight
import ProjectorControl.Net.Host
import ProjectorControl.Proofs.Net.Address

/-!
# Host specifiers in full

A specifier that was read can be written in full and read again.  The text names the port, so the
default does not matter any more, and it sets an address with colons in brackets:

    fe80::1             tcp://[fe80::1]:20554
    projector.local     tcp://projector.local:20554

Two kinds of hosts do not come back, because brackets of their own are taken for those of the
text.  The reader lets both in:

    [[tv]:80            tcp://[tv:80            nothing closes the bracket
    tv]a:b:80           tcp://[tv]a:b]:80       the first bracket closes too early

`HostSpec.Separable` leaves them out, and `parse_text_iff` says that they are all.
-/

namespace ProjectorControl

open ProjectorControl.Net

namespace Text

/-! ## Blanks at the ends -/

theorem trimChars_eq (cs : List Char) :
    trimChars cs = (cs.dropWhile isBlank).rdropWhile isBlank :=
  rfl

theorem trimChars_eq_self {cs : List Char} (head : ∀ c ∈ cs.head?, isBlank c = false)
    (last : ∀ c ∈ cs.getLast?, isBlank c = false) : trimChars cs = cs := by
  have front : cs.dropWhile isBlank = cs := by
    cases cs with
    | nil => rfl
    | cons c cs => exact List.dropWhile_cons_of_neg (by simpa using head c rfl)
  rw [trimChars_eq, front, List.rdropWhile_eq_self_iff]
  intro some
  simpa using last _ (List.getLast?_eq_some_getLast some)

theorem isBlank_of_getLast?_trimChars {cs : List Char} {c : Char}
    (last : c ∈ (trimChars cs).getLast?) : isBlank c = false := by
  rw [trimChars_eq] at last
  obtain ⟨some, rfl⟩ := List.mem_getLast?_eq_getLast last
  simpa using List.rdropWhile_last_not isBlank _ some

end Text

/-! ## Ports -/

namespace Net

theorem isDigit_iff {c : Char} : c.isDigit = true ↔ 0x30 ≤ c.toNat ∧ c.toNat ≤ 0x39 := by
  simp [Char.isDigit, UInt32.le_iff_toNat_le]

theorem digitValue?_of_isDigit {c : Char} (digit : c.isDigit = true) :
    digitValue? 10 c = some (c.toNat - '0'.toNat) := by
  have bounds := isDigit_iff.mp digit
  have small : c.toNat - 0x30 < 10 := by omega
  simp [digitValue?, bounds, small]

theorem readPortDigits_eq {value : Nat} {cs : List Char} (digits : ∀ c ∈ cs, c.isDigit = true)
    (small : Nat.ofDigitChars 10 cs value < 65536) :
    readPortDigits value cs = .ok (Nat.ofDigitChars 10 cs value).toUInt16 := by
  induction cs generalizing value with
  | nil => rfl
  | cons c cs ih =>
      rw [Nat.ofDigitChars_cons] at small ⊢
      have grown : 10 * value + (c.toNat - '0'.toNat) < 65536 := by
        rw [Nat.ofDigitChars_eq_ofDigitChars_zero] at small
        have := Nat.le_mul_of_pos_left (10 * value + (c.toNat - '0'.toNat))
          (Nat.pow_pos (n := cs.length) (show 0 < 10 by decide))
        omega
      rw [readPortDigits, digitValue?_of_isDigit (digits c (.head cs))]
      dsimp only
      rw [Nat.mul_comm value, if_pos grown]
      exact ih (fun d member => digits d (.tail c member)) small

/-- A port is read as it was written. -/
theorem portOfText?_toString (port : UInt16) : portOfText? (toString port.toNat) = some port := by
  have digits : ∀ c ∈ Nat.toDigits 10 port.toNat, c.isDigit = true := fun c member =>
    Nat.isDigit_of_mem_toDigits (by decide) (by decide) member
  have read : readPortDigits 0 (Nat.toDigits 10 port.toNat) = .ok _ :=
    readPortDigits_eq digits (by rw [Nat.ofDigitChars_ten_toDigits]; exact port.toNat_lt)
  rw [Nat.ofDigitChars_ten_toDigits] at read
  have some : Nat.toDigits 10 port.toNat ≠ [] := Nat.toDigits_ne_nil
  unfold portOfText? readPort
  rw [Nat.toString_eq_ofList_toDigits, String.toList_ofList]
  generalize Nat.toDigits 10 port.toNat = cs at digits read some
  split
  next => exact absurd rfl some
  next => exact absurd (digits '+' (.head _)) (by decide)
  next => exact absurd (digits '+' (.head _)) (by decide)
  next =>
    rw [read]
    simp [Except.toOption]

end Net

namespace HostSpec

/-! ## Delimiters -/

theorem tcpScheme_eq : tcpScheme = ['t', 'c', 'p', ':', '/', '/'] := by decide +kernel

theorem sddpScheme_eq : sddpScheme = ['s', 'd', 'd', 'p', ':', '/', '/'] := by decide +kernel

theorem holds_iff (pattern cs : List Char) : holds pattern cs = true ↔ pattern <:+: cs := by
  induction cs with
  | nil => rw [holds, List.isEmpty_iff, List.infix_nil]
  | cons c cs ih =>
      rw [holds, Bool.or_eq_true, List.isPrefixOf_iff_prefix, ih, List.infix_cons_iff]

theorem dropStart?_eq_some_iff {start cs rest : List Char} :
    dropStart? start cs = some rest ↔ cs = start ++ rest := by
  unfold dropStart?
  split
  next front =>
    obtain ⟨after, rfl⟩ := List.isPrefixOf_iff_prefix.mp front
    rw [List.drop_left, Option.some_inj, List.append_cancel_left_eq]
  next other =>
    refine ⟨nofun, ?_⟩
    rintro rfl
    exact absurd (List.isPrefixOf_iff_prefix.mpr (List.prefix_append start rest)) other

theorem splitFirst?_append {at_ : Char} {before : List Char} (away : at_ ∉ before)
    (after : List Char) : splitFirst? at_ (before ++ at_ :: after) = some (before, after) := by
  induction before with
  | nil => exact if_pos rfl
  | cons c before ih =>
      rw [List.mem_cons, not_or] at away
      rw [List.cons_append, splitFirst?, if_neg (Ne.symm away.1), ih away.2]
      rfl

theorem splitFirst?_eq_some {at_ : Char} {cs before after : List Char}
    (split : splitFirst? at_ cs = some (before, after)) :
    cs = before ++ at_ :: after ∧ at_ ∉ before := by
  induction cs generalizing before with
  | nil => cases split
  | cons c cs ih =>
      unfold splitFirst? at split
      split at split
      next same =>
        cases split
        exact ⟨congrArg (· :: after) same, List.not_mem_nil⟩
      next other =>
        obtain ⟨⟨front, back⟩, found, rest⟩ := Option.map_eq_some_iff.mp split
        cases rest
        obtain ⟨rfl, away⟩ := ih found
        exact ⟨rfl, List.not_mem_cons_of_ne_of_not_mem (Ne.symm other) away⟩

theorem splitLast?_append {at_ : Char} {after : List Char} (away : at_ ∉ after)
    (before : List Char) : splitLast? at_ (before ++ at_ :: after) = some (before, after) := by
  have reversed : (before ++ at_ :: after).reverse = after.reverse ++ at_ :: before.reverse := by
    simp
  rw [splitLast?, reversed, splitFirst?_append (by simpa using away)]
  simp

theorem splitFirst?_eq_none_iff {at_ : Char} {cs : List Char} :
    splitFirst? at_ cs = none ↔ at_ ∉ cs := by
  constructor
  · intro split member
    obtain ⟨before, after, rfl, away⟩ := List.eq_append_cons_of_mem member
    rw [splitFirst?_append away] at split
    cases split
  · intro away
    cases split : splitFirst? at_ cs with
    | none => rfl
    | some parts =>
        rw [(splitFirst?_eq_some split).1] at away
        exact absurd (List.mem_append_right _ (.head _)) away

theorem splitLast?_eq_some {at_ : Char} {cs before after : List Char}
    (split : splitLast? at_ cs = some (before, after)) :
    cs = before ++ at_ :: after ∧ at_ ∉ after := by
  obtain ⟨⟨back, front⟩, found, same⟩ := Option.map_eq_some_iff.mp split
  cases same
  obtain ⟨reversed, away⟩ := splitFirst?_eq_some found
  refine ⟨?_, by simpa using away⟩
  rw [← List.reverse_reverse cs, reversed]
  simp

theorem splitLast?_eq_none_iff {at_ : Char} {cs : List Char} :
    splitLast? at_ cs = none ↔ at_ ∉ cs := by
  rw [splitLast?, Option.map_eq_none_iff, splitFirst?_eq_none_iff, List.mem_reverse]

/-! ## Hosts and ports -/

/-- The ways in which a text is a host and a port. -/
inductive HostAndPort (defaultPort : UInt16) : List Char → List Char → UInt16 → Prop where
  /-- The brackets end the text. -/
  | bracketed {host} : ']' ∉ host →
      HostAndPort defaultPort ('[' :: (host ++ [']'])) host defaultPort
  /-- A port follows the brackets. -/
  | bracketedPort {host digits port} : ']' ∉ host → readPort? digits = some port →
      HostAndPort defaultPort ('[' :: (host ++ ']' :: ':' :: digits)) host port
  /-- There is no port, or no room for one. -/
  | bare {host} : host.head? ≠ some '[' →
      (whole (readIpAddress host)).isSome ∨ ':' ∉ host →
      HostAndPort defaultPort host host defaultPort
  /-- The port is behind the last colon. -/
  | port {host digits port} : (host ++ ':' :: digits).head? ≠ some '[' →
      whole (readIpAddress (host ++ ':' :: digits)) = none → ':' ∉ digits →
      readPort? digits = some port → HostAndPort defaultPort (host ++ ':' :: digits) host port

theorem splitHostPort?_of_unbracketed {text : List Char} (start : text.head? ≠ some '[')
    (defaultPort : UInt16) :
    splitHostPort? text defaultPort =
      if (whole (readIpAddress text)).isSome then some (text, defaultPort)
      else
        match splitLast? ':' text with
        | some (host, port) => (readPort? port).map fun p => (host, p)
        | none => some (text, defaultPort) := by
  unfold splitHostPort?
  split
  next => exact absurd rfl start
  next => rfl

theorem hostAndPort_of_split {text host : List Char} {defaultPort port : UInt16}
    (split : splitHostPort? text defaultPort = some (host, port)) :
    HostAndPort defaultPort text host port := by
  by_cases start : text.head? = some '['
  · obtain ⟨bracketed, rfl⟩ := List.head?_eq_some_iff.mp start
    unfold splitHostPort? at split
    split at split
    next same =>
      cases same
      split at split
      next => cases split
      next found =>
        cases split
        obtain ⟨rfl, closed⟩ := splitFirst?_eq_some found
        exact .bracketed closed
      next found =>
        obtain ⟨rfl, closed⟩ := splitFirst?_eq_some found
        obtain ⟨port, read, same⟩ := Option.map_eq_some_iff.mp split
        cases same
        exact .bracketedPort closed read
      next => cases split
    next other => exact absurd rfl (other bracketed)
  · rw [splitHostPort?_of_unbracketed start] at split
    split at split
    next address =>
      cases split
      exact .bare start (.inl address)
    next other =>
      split at split
      next found =>
        obtain ⟨port, read, same⟩ := Option.map_eq_some_iff.mp split
        cases same
        obtain ⟨rfl, last⟩ := splitLast?_eq_some found
        exact .port start (by simpa using other) last read
      next found =>
        cases split
        exact .bare start (.inr (splitLast?_eq_none_iff.mp found))

theorem split_of_hostAndPort {text host : List Char} {defaultPort port : UInt16}
    (parts : HostAndPort defaultPort text host port) :
    splitHostPort? text defaultPort = some (host, port) := by
  cases parts with
  | bracketed closed => rw [splitHostPort?, splitFirst?_append closed]
  | bracketedPort closed read =>
      rw [splitHostPort?, splitFirst?_append closed]
      exact congrArg (Option.map fun port => (host, port)) read
  | bare start reason =>
      rw [splitHostPort?_of_unbracketed start]
      split
      next => rfl
      next other =>
        rw [splitLast?_eq_none_iff.mpr (reason.resolve_left other)]
  | port start other last read =>
      rw [splitHostPort?_of_unbracketed start, other, splitLast?_append last, if_neg nofun]
      exact congrArg (Option.map fun port => (host, port)) read

/-! ## Specifiers that are let in -/

/-- What is known of a host that was read. -/
structure Admissible (host : List Char) : Prop where
  ne_nil : host ≠ []
  /-- Nothing in it is taken for a scheme. -/
  schemeless : ¬ "://".toList <:+: host
  /-- Only within brackets does a host begin with a bracket. -/
  closed : host.head? = some '[' → ']' ∉ host

/-- The specifiers that are the result of reading. -/
inductive Accepted : HostSpec → Prop where
  | anyone : Accepted (.sddp none)
  | announced {hint} : hint.toList ≠ [] → (∀ c ∈ hint.toList.getLast?, Text.isBlank c = false) →
      Accepted (.sddp (some hint))
  | host {host port} : Admissible host.toList → Accepted (.tcp host port)

theorem HostAndPort.closed {text host : List Char} {defaultPort port : UInt16}
    (parts : HostAndPort defaultPort text host port) (start : host.head? = some '[') :
    ']' ∉ host := by
  cases parts with
  | bracketed closed => exact closed
  | bracketedPort closed => exact closed
  | bare unbracketed => exact absurd start unbracketed
  | port unbracketed => exact absurd (by rw [List.head?_append, start]; rfl) unbracketed

theorem HostAndPort.infix {text host : List Char} {defaultPort port : UInt16}
    (parts : HostAndPort defaultPort text host port) : host <:+: text := by
  cases parts with
  | bracketed => exact List.infix_cons (List.prefix_append _ _).isInfix
  | bracketedPort => exact List.infix_cons (List.prefix_append _ _).isInfix
  | bare => exact List.infix_rfl
  | port => exact (List.prefix_append _ _).isInfix

theorem accepted_of_parse {spec : String} {defaultPort : UInt16} {v : HostSpec}
    (read : parse spec defaultPort = .ok v) : Accepted v := by
  unfold parse at read
  dsimp only at read
  split at read
  next => cases read; exact .anyone
  next some =>
    split at read
    next => cases read; exact .anyone
    next hint other found =>
      cases read
      have named : hint ≠ [] := fun empty => other empty
      have whole := dropStart?_eq_some_iff.mp found
      refine .announced (by simpa using named) fun c last => ?_
      rw [String.toList_ofList] at last
      have kept : c ∈ (Text.trimChars spec.toList).getLast? := by
        rw [whole]
        exact List.mem_getLast?_append_of_mem_getLast? last
      exact Text.isBlank_of_getLast?_trimChars kept
    next =>
      split at read
      next => cases read
      next schemeless =>
        split at read
        next => cases read
        next => cases read
        next host port other split =>
          cases read
          have parts := hostAndPort_of_split split
          rw [holds_iff] at schemeless
          refine .host ?_
          rw [String.toList_ofList]
          exact ⟨other, fun scheme => schemeless (scheme.trans parts.infix), parts.closed⟩

/-! ## Specifiers in full -/

/-- The digits of a port. -/
def portDigits (port : UInt16) : List Char := (toString port.toNat).toList

theorem readPort?_portDigits (port : UInt16) : readPort? (portDigits port) = some port := by
  rw [readPort?, portDigits, String.ofList_toList, portOfText?_toString]

theorem isDigit_of_mem_portDigits {port : UInt16} {c : Char} (member : c ∈ portDigits port) :
    c.isDigit = true := by
  rw [portDigits, Nat.toString_eq_ofList_toDigits, String.toList_ofList] at member
  exact Nat.isDigit_of_mem_toDigits (by decide) (by decide) member

theorem portDigits_ne_nil (port : UInt16) : portDigits port ≠ [] := by
  rw [portDigits, Nat.toString_eq_ofList_toDigits, String.toList_ofList]
  exact Nat.toDigits_ne_nil

/-- What stands behind the scheme. -/
def written (host : List Char) (port : UInt16) : List Char :=
  if ':' ∈ host then '[' :: (host ++ ']' :: ':' :: portDigits port)
  else host ++ ':' :: portDigits port

theorem toList_text_tcp (host : String) (port : UInt16) :
    (text (.tcp host port)).toList = tcpScheme ++ written host.toList port := by
  simp only [text, written]
  split
  next =>
    simp only [String.toList_append]
    simp [tcpScheme_eq, portDigits]
    rfl
  next =>
    simp only [String.toList_append]
    simp [tcpScheme_eq, portDigits]
    rfl

/-- The port comes last. -/
theorem exists_written (host : List Char) (port : UInt16) :
    ∃ front, written host port = front ++ ':' :: portDigits port := by
  unfold written
  split
  next => exact ⟨'[' :: (host ++ [']']), by simp⟩
  next => exact ⟨host, rfl⟩

theorem written_ne_nil (host : List Char) (port : UInt16) : written host port ≠ [] := by
  obtain ⟨front, shape⟩ := exists_written host port
  simp [shape]

theorem isBlank_of_isDigit {c : Char} (digit : c.isDigit = true) : Text.isBlank c = false := by
  have bounds := isDigit_iff.mp digit
  simp [Text.isBlank]
  omega

theorem isBlank_of_getLast?_written {host : List Char} {port : UInt16} {c : Char}
    (last : c ∈ (written host port).getLast?) : Text.isBlank c = false := by
  obtain ⟨front, shape⟩ := exists_written host port
  rw [shape, List.append_cons, List.getLast?_append_of_ne_nil _ (portDigits_ne_nil port)] at last
  exact isBlank_of_isDigit (isDigit_of_mem_portDigits (List.mem_of_getLast? last))

/-- Behind a scheme there is nothing to trim in front. -/
theorem trimChars_scheme (scheme : List Char) {rest : List Char} (begins : scheme ≠ [])
    (head : ∀ c ∈ scheme.head?, Text.isBlank c = false) (some : rest ≠ [])
    (last : ∀ c ∈ rest.getLast?, Text.isBlank c = false) :
    Text.trimChars (scheme ++ rest) = scheme ++ rest := by
  refine Text.trimChars_eq_self ?_ ?_
  · rw [List.head?_append_of_ne_nil _ begins]
    exact head
  · rw [List.getLast?_append_of_ne_nil _ some]
    exact last

/-- What is read behind the scheme of announcements. -/
theorem parse_sddp {hint : String} (some : hint.toList ≠ [])
    (last : ∀ c ∈ hint.toList.getLast?, Text.isBlank c = false) (defaultPort : UInt16) :
    parse (text (.sddp (Option.some hint))) defaultPort = .ok (.sddp (Option.some hint)) := by
  have shape : (text (.sddp (Option.some hint))).toList = sddpScheme ++ hint.toList :=
    String.toList_append
  have trimmed := trimChars_scheme sddpScheme (by simp [sddpScheme_eq])
    (by simp [sddpScheme_eq, Text.isBlank]) some last
  have begun : dropStart? sddpScheme (sddpScheme ++ hint.toList) = Option.some hint.toList :=
    dropStart?_eq_some_iff.mpr rfl
  unfold parse
  simp only [shape, trimmed, begun]
  rw [if_neg (by simp [sddpScheme_eq]), String.ofList_toList]

/-- What is read behind the scheme of hosts. -/
theorem parse_tcp_iff {full : String} {rest : List Char} {defaultPort : UInt16}
    (shape : full.toList = tcpScheme ++ rest) (some : rest ≠ [])
    (last : ∀ c ∈ rest.getLast?, Text.isBlank c = false) {host : String} {port : UInt16} :
    parse full defaultPort = .ok (.tcp host port) ↔
      ¬ "://".toList <:+: rest ∧ HostAndPort defaultPort rest host.toList port ∧
        host.toList ≠ [] := by
  have trimmed := trimChars_scheme tcpScheme (by simp [tcpScheme_eq])
    (by simp [tcpScheme_eq, Text.isBlank]) some last
  have other : dropStart? sddpScheme (tcpScheme ++ rest) = none := rfl
  have begun : dropStart? tcpScheme (tcpScheme ++ rest) = Option.some rest :=
    dropStart?_eq_some_iff.mpr rfl
  unfold parse
  simp only [shape, trimmed, other, begun, Option.getD_some]
  rw [if_neg (by simp [tcpScheme_eq])]
  constructor
  · intro read
    split at read
    next => cases read
    next schemeless =>
      rw [holds_iff] at schemeless
      split at read
      next => cases read
      next => cases read
      next nonempty split =>
        cases read
        simp only [String.toList_ofList]
        exact ⟨schemeless, hostAndPort_of_split split, nonempty⟩
  · rintro ⟨schemeless, parts, nonempty⟩
    rw [← holds_iff] at schemeless
    rw [if_neg schemeless, split_of_hostAndPort parts]
    split
    next found => cases found
    next found => exact absurd (Prod.mk.inj (Option.some.inj found)).1 nonempty
    next found =>
      obtain ⟨rfl, rfl⟩ := Prod.mk.inj (Option.some.inj found)
      rw [String.ofList_toList]

theorem notMem_portDigits {c : Char} (other : c.isDigit = false) (port : UInt16) :
    c ∉ portDigits port := by
  intro member
  rw [isDigit_of_mem_portDigits member] at other
  cases other

/-- A pattern lies on one side of a character that it does not hold. -/
theorem infix_append_cons {pattern before after : List Char} {c : Char} (away : c ∉ pattern)
    (found : pattern <:+: before ++ c :: after) :
    pattern <:+: before ∨ pattern <:+: after := by
  obtain ⟨front, back, same⟩ := found
  rw [List.append_assoc] at same
  obtain ⟨between, rfl, rest⟩ | ⟨between, rfl, rest⟩ := List.append_eq_append_iff.mp same
  · obtain ⟨more, rfl, rest'⟩ | ⟨more, rfl, rest'⟩ := List.append_eq_append_iff.mp rest
    · exact .inl ⟨front, more, List.append_assoc ..⟩
    · cases more with
      | nil => exact .inl ⟨front, [], by simp⟩
      | cons d more =>
          cases rest'
          exact absurd (List.mem_append_right _ (.head _)) away
  · cases between with
    | nil =>
        cases pattern with
        | nil => exact .inl (List.nil_infix)
        | cons d pattern =>
            cases rest
            exact absurd (.head _) away
    | cons d between =>
        cases rest
        exact .inr ⟨between, back, by simp⟩

theorem schemeless_written {host : List Char} (schemeless : ¬ "://".toList <:+: host)
    (port : UInt16) : ¬ "://".toList <:+: written host port := by
  have slashless : '/' ∉ portDigits port := notMem_portDigits rfl port
  unfold written
  split
  next =>
    intro found
    replace found : "://".toList <:+: [] ++ '[' :: _ := found
    obtain inside | found := infix_append_cons (by decide : '[' ∉ "://".toList) found
    · exact absurd (List.infix_nil.mp inside) (by decide)
    · obtain inside | found := infix_append_cons (by decide : ']' ∉ "://".toList) found
      · exact schemeless inside
      · have slash : '/' ∈ ':' :: portDigits port := found.subset (by decide)
        exact slashless (List.mem_of_ne_of_mem (by decide) slash)
  next colonless =>
    rintro ⟨front, back, same⟩
    have cut : host ++ ':' :: portDigits port = front ++ ':' :: ('/' :: '/' :: back) := by
      rw [← same]
      simp
    have digits := ((List.append_cons_inj_of_notMem colonless
      (notMem_portDigits rfl port)).mp cut).2.2
    exact slashless (digits ▸ .head _)

/-- The brackets of the host are not taken for those of the text. -/
def Separable : HostSpec → Prop
  | .tcp host _ =>
    if ':' ∈ host.toList then ']' ∉ host.toList else host.toList.head? ≠ some '['
  | .sddp _ => True

instance (v : HostSpec) : Decidable v.Separable := by
  cases v <;> unfold Separable <;> infer_instance

/-- A bracket at the front is one of the text. -/
theorem HostAndPort.of_bracket {text host : List Char} {defaultPort port : UInt16}
    (parts : HostAndPort defaultPort text host port) (start : text.head? = some '[') :
    ']' ∉ host ∧ ']' ∈ text := by
  cases parts with
  | bracketed closed => exact ⟨closed, by simp⟩
  | bracketedPort closed => exact ⟨closed, by simp⟩
  | bare unbracketed => exact absurd start unbracketed
  | port unbracketed => exact absurd start unbracketed

theorem hostAndPort_of_written {host : List Char} (admissible : Admissible host)
    {defaultPort port : UInt16} (parts : HostAndPort defaultPort (written host port) host port) :
    if ':' ∈ host then ']' ∉ host else host.head? ≠ some '[' := by
  unfold written at parts
  split at parts
  next colon =>
    rw [if_pos colon]
    exact (parts.of_bracket rfl).1
  next colonless =>
    rw [if_neg colonless]
    intro start
    have front : (host ++ ':' :: portDigits port).head? = some '[' := by
      rw [List.head?_append, start]
      rfl
    have closes := (parts.of_bracket front).2
    rw [List.mem_append, List.mem_cons] at closes
    obtain inside | other | digit := closes
    · exact admissible.closed start inside
    · cases other
    · exact notMem_portDigits rfl port digit

theorem hostAndPort_written {host : List Char} (admissible : Admissible host)
    (separable : if ':' ∈ host then ']' ∉ host else host.head? ≠ some '[')
    (defaultPort port : UInt16) : HostAndPort defaultPort (written host port) host port := by
  unfold written
  split at separable
  next colon =>
    rw [if_pos colon]
    exact .bracketedPort separable (readPort?_portDigits port)
  next colonless =>
    rw [if_neg colonless]
    have digits : ':' ∉ portDigits port := notMem_portDigits rfl port
    refine .port ?_ (whole_readIpAddress_eq_none ?_) digits (readPort?_portDigits port)
    · obtain ⟨c, cs, rfl⟩ := List.exists_cons_of_ne_nil admissible.ne_nil
      exact separable
    · rw [List.count_append, List.count_cons_self, List.count_eq_zero.mpr colonless,
        List.count_eq_zero.mpr digits]

theorem Accepted.separable_iff {v : HostSpec} (accepted : Accepted v) (defaultPort : UInt16) :
    parse v.text defaultPort = .ok v ↔ v.Separable := by
  cases accepted with
  | anyone => exact iff_of_true rfl trivial
  | announced some last => exact iff_of_true (parse_sddp some last defaultPort) trivial
  | @host host port admissible =>
      rw [parse_tcp_iff (toList_text_tcp host port) (written_ne_nil _ port)
        fun c => isBlank_of_getLast?_written]
      constructor
      · rintro ⟨-, parts, -⟩
        exact hostAndPort_of_written admissible parts
      · intro separable
        exact ⟨schemeless_written admissible.schemeless port,
          hostAndPort_written admissible separable defaultPort port, admissible.ne_nil⟩

/-- Whatever specifier was read, and with whatever default ports: written in full it is read as
before, unless brackets of its host get in the way. -/
theorem parse_text_iff {spec : String} {defaultPort : UInt16} {v : HostSpec}
    (read : parse spec defaultPort = .ok v) (otherPort : UInt16) :
    parse v.text otherPort = .ok v ↔ v.Separable :=
  (accepted_of_parse read).separable_iff otherPort

/-- An address with colons, on the default port. -/
theorem parse_text_iff_address :
    parse " fe80::1 " 20554 = .ok (.tcp "fe80::1" 20554) ∧
      (parse (text (.tcp "fe80::1" 20554)) 80 = .ok (.tcp "fe80::1" 20554) ↔
        (HostSpec.tcp "fe80::1" 20554).Separable) ∧
      (HostSpec.tcp "fe80::1" 20554).Separable := by
  have read : parse " fe80::1 " 20554 = .ok (.tcp "fe80::1" 20554) := by decide +kernel
  exact ⟨read, parse_text_iff read 80, by decide⟩

/-- The two kinds of hosts that are let in and not read again, as at the head of this module. -/
theorem exists_inseparable :
    (∃ v, parse "[[tv]:80" 20554 = .ok v ∧ v.text = "tcp://[tv:80" ∧
      parse v.text 20554 = .error (.invalidHost "tcp://[tv:80")) ∧
    ∃ v, parse "tv]a:b:80" 20554 = .ok v ∧ v.text = "tcp://[tv]a:b]:80" ∧
      parse v.text 20554 = .error (.invalidHost "tcp://[tv]a:b]:80") :=
  ⟨⟨.tcp "[tv" 80, by decide +kernel⟩, ⟨.tcp "tv]a:b" 80, by decide +kernel⟩⟩

end HostSpec

end ProjectorControl
