import ProjectorControl.Proofs.Packet.Language

/-!
# Positions in a line

`Packet.parse` takes a line apart from its front.  `Packet.parseByPosition?` makes the same checks
by position: the first byte, the two behind it, the last byte, and all in front of the last.  Such a
reader has to stay inside its line.  So it is written with slices that give nothing when they reach
outside (`Bytes.slice?`), and `Packet.parseByPosition?_eq` says that it reads every byte string as
`Packet.parse` does.  The length is checked first, and that is enough for all later positions.
-/

namespace ProjectorControl

namespace Bytes

/-- The bytes from one position up to another, if these are in order and inside. -/
def slice? (bytes : Bytes) (start stop : Nat) : Option Bytes :=
  if start ≤ stop ∧ stop ≤ bytes.length then some ((bytes.take stop).drop start) else none

theorem slice?_of_le {bytes : Bytes} {start stop : Nat} (ordered : start ≤ stop)
    (inside : stop ≤ bytes.length) :
    bytes.slice? start stop = some ((bytes.take stop).drop start) :=
  if_pos ⟨ordered, inside⟩

theorem slice?_front {bytes : Bytes} {stop : Nat} (inside : stop ≤ bytes.length) :
    bytes.slice? 0 stop = some (bytes.take stop) := by
  rw [slice?_of_le (Nat.zero_le stop) inside, List.drop_zero]

theorem slice?_back {bytes : Bytes} {start : Nat} (inside : start ≤ bytes.length) :
    bytes.slice? start bytes.length = some (bytes.drop start) := by
  rw [slice?_of_le inside (Nat.le_refl _), List.take_length]

end Bytes

namespace Packet

/-- Reads one line by positions.  Nothing comes out if one of them lies outside of the line. -/
def parseByPosition? (raw : Bytes) : Option (Except Error Packet) :=
  if raw.length < minLength ∨ maxLength < raw.length then some (.error (outsideLength raw))
  else do
    let kindByte ← raw[0]?
    match Kind.ofByte kindByte with
    | .error fault => some (.error fault)
    | .ok kind =>
      let marked ← raw.slice? 1 codeOffset
      if marked ≠ magic then some (.error (.malformedPacket s!"bad magic bytes: {raw.hex}"))
      else do
        let last ← raw[raw.length - 1]?
        if last ≠ terminator then
          some (.error (.malformedPacket s!"missing terminator: {raw.hex}"))
        else do
          let front ← raw.slice? 0 (raw.length - 1)
          if terminator ∈ front then
            some (.error (.malformedPacket s!"embedded terminator: {raw.hex}"))
          else do
            let code ← Line.code? raw
            let payload ← Line.payload? raw
            return build kind code payload

theorem parse_of_outside {raw : Bytes} (outside : raw.length < minLength ∨ maxLength < raw.length) :
    parse raw = .error (outsideLength raw) := by
  unfold parse
  split
  next kindByte magic₀ magic₁ code₀ code₁ body =>
    rw [if_pos]
    rcases outside with short | long
    · refine .inl (List.length_eq_zero_iff.mp ?_)
      simp only [List.length_cons, minLength] at short
      omega
    · exact .inr long
  next => rfl

/-! ## Inside the line -/

/-- A line that is long enough has a first byte, two marks, a code, and a last byte. -/
theorem exists_shape {raw : Bytes} (long : minLength ≤ raw.length) :
    ∃ kindByte magic₀ magic₁ code₀ code₁ payload last,
      raw = kindByte :: magic₀ :: magic₁ :: code₀ :: code₁ :: (payload ++ [last]) := by
  match raw with
  | kindByte :: magic₀ :: magic₁ :: code₀ :: code₁ :: body =>
    have some : body ≠ [] := by
      rintro rfl
      simp [minLength] at long
    refine ⟨kindByte, magic₀, magic₁, code₀, code₁, body.dropLast, body.getLast some, ?_⟩
    rw [List.dropLast_concat_getLast]
  | [] | [_] | [_, _] | [_, _, _] | [_, _, _, _] => simp [minLength] at long

section

variable {raw payload : Bytes} {kindByte magic₀ magic₁ code₀ code₁ last : UInt8}

/-- Every position that is looked at has its byte. -/
theorem found_of_shape
    (shape : raw = kindByte :: magic₀ :: magic₁ :: code₀ :: code₁ :: (payload ++ [last])) :
    raw[0]? = some kindByte ∧ raw.slice? 1 codeOffset = some [magic₀, magic₁] ∧
      raw[raw.length - 1]? = some last ∧
      raw.slice? 0 (raw.length - 1) =
        some (kindByte :: [magic₀, magic₁] ++ [code₀, code₁] ++ payload) ∧
      Line.code? raw = some ⟨code₀, code₁⟩ ∧ Line.payload? raw = some payload := by
  have split : raw = kindByte :: [magic₀, magic₁] ++ [code₀, code₁] ++ payload ++ [last] := by
    rw [shape]
    rfl
  have long : minLength ≤ raw.length := by
    simp [shape, minLength]
  refine ⟨?_, ?_, ?_, ?_, ?_, ?_⟩
  · rw [shape]
    rfl
  · rw [Bytes.slice?_of_le (by decide) (Nat.le_trans (by decide) long), shape]
    rfl
  · rw [← List.getLast?_eq_getElem?, split, List.getLast?_concat]
  · rw [Bytes.slice?_front (Nat.sub_le _ _), ← List.dropLast_eq_take, split, List.dropLast_concat]
  · rw [shape]
    rfl
  · rw [Line.payload?, if_pos (Nat.lt_of_lt_of_le (by decide) long), split, List.dropLast_concat]
    rfl

end

/-- In front of the end of a line with the right first bytes, a line end can only stand in the code
or in the payload. -/
theorem terminator_mem_front (kind : Kind) (code : Code) (payload : Bytes) :
    terminator ∈ kind.byte :: magic ++ code.bytes ++ payload ↔
      terminator ∈ code.bytes ∨ terminator ∈ payload := by
  have marked : terminator ∉ kind.byte :: magic := by
    cases kind <;> decide
  rw [List.mem_append, List.mem_append, or_iff_right marked]

/-! ## The same readings -/

/-- Reading a line by positions never leaves the line, and reads what `parse` does. -/
theorem parseByPosition?_eq (raw : Bytes) : parseByPosition? raw = some (parse raw) := by
  by_cases outside : raw.length < minLength ∨ maxLength < raw.length
  · rw [parseByPosition?, if_pos outside, parse_of_outside outside]
  rw [parseByPosition?, if_neg outside]
  rw [not_or, Nat.not_lt, Nat.not_lt] at outside
  obtain ⟨long, short⟩ := outside
  obtain ⟨kindByte, magic₀, magic₁, code₀, code₁, payload, last, shape⟩ := exists_shape long
  obtain ⟨first, marks, ending, front, code, carried⟩ := found_of_shape shape
  have bounded : ¬ (payload ++ [last] = [] ∨ maxLength < raw.length) := by
    rw [not_or, Nat.not_lt]
    exact ⟨List.append_ne_nil_of_right_ne_nil payload (List.cons_ne_nil last []), short⟩
  simp only [first, marks, ending, front, code, carried, Option.bind_eq_bind, Option.bind_some]
  rw [congrArg parse shape, parse]
  simp only [← shape, if_neg bounded, List.getLast?_concat, List.dropLast_concat,
    Option.some.injEq, ne_eq]
  -- From here on both sides make the same checks, but for where they look for a line end.
  cases named : Kind.ofByte kindByte with
  | error fault => rfl
  | ok kind =>
      obtain rfl := Kind.byte_of_ofByte named
      by_cases marked : [magic₀, magic₁] = magic
      case neg => simp only [marked, not_false_eq_true, if_true]
      by_cases ended : last = terminator
      case neg =>
        simp only [marked, ended, not_true_eq_false, not_false_eq_true, if_false, if_true]
      have inside : terminator ∈ kind.byte :: magic ++ [code₀, code₁] ++ payload ↔
          terminator ∈ Code.bytes ⟨code₀, code₁⟩ ∨ terminator ∈ payload :=
        terminator_mem_front kind ⟨code₀, code₁⟩ payload
      simp only [marked, ended, not_true_eq_false, if_false, inside]
      by_cases embedded : terminator ∈ Code.bytes ⟨code₀, code₁⟩ ∨ terminator ∈ payload
      case pos => rw [if_pos embedded, dif_pos embedded]
      have fits : payload.length ≤ maxPayloadLength := by
        simp only [shape, List.length_cons, List.length_append, List.length_nil, maxLength] at short
        rw [maxPayloadLength]
        omega
      rw [if_neg embedded, dif_neg embedded, dif_pos fits,
        build_of_fits kind fits (fun h => embedded (.inl h)) (fun h => embedded (.inr h))]
      rfl

end Packet

end ProjectorControl
