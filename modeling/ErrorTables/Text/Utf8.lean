/-!
Reading UTF-8. The text of well-formed bytes is theirs by core's definition of strings; for
ill-formed bytes `firstFault` finds where the first ill-formed sequence stands and what is wrong
with it.
-/

namespace ErrorTables.Text.Utf8

/-- What is wrong with a sequence of bytes. -/
inductive FaultKind where
  | invalidStart
  | invalidContinuation
  | unexpectedEnd
  deriving DecidableEq, Repr

/-- The wording of a kind of fault. -/
def FaultKind.message : FaultKind → String
  | .invalidStart => "invalid start byte"
  | .invalidContinuation => "invalid continuation byte"
  | .unexpectedEnd => "unexpected end of data"

/-- An ill-formed sequence: it starts with the byte `lead` at the offset `start` and has `length`
bytes. -/
structure Fault where
  start : Nat
  length : Nat
  lead : UInt8
  kind : FaultKind
  deriving DecidableEq, Repr

/-- The two hexadecimal digits of a byte. -/
def byteDigits (byte : UInt8) : String :=
  let digits := Nat.toDigits 16 byte.toNat
  String.ofList (List.replicate (2 - digits.length) '0' ++ digits)

/-- The wording of a fault, with the byte at fault or the offsets of the first and the last one. -/
def Fault.message (fault : Fault) : String :=
  let place :=
    if fault.length = 1 then s!"byte 0x{byteDigits fault.lead} in position {fault.start}"
    else s!"bytes in position {fault.start}-{fault.start + fault.length - 1}"
  s!"'utf-8' codec can't decode {place}: {fault.kind.message}"

/-- What must follow a lead byte beyond ASCII: the number of continuation bytes, and the range of
the first of them, which rules out overlong forms, surrogates and numbers beyond Unicode. -/
def continuation? (lead : UInt8) : Option (Nat × UInt8 × UInt8) :=
  if lead < 0xc2 then none
  else if lead < 0xe0 then some (1, 0x80, 0xbf)
  else if lead < 0xf0 then
    some (2, if lead = 0xe0 then 0xa0 else 0x80, if lead = 0xed then 0x9f else 0xbf)
  else if lead < 0xf5 then
    some (3, if lead = 0xf0 then 0x90 else 0x80, if lead = 0xf4 then 0x8f else 0xbf)
  else none

/-- The number of leading bytes, up to `count`, that continue a character whose next byte must lie
between `low` and `high`. -/
def continued : Nat → UInt8 → UInt8 → List UInt8 → Nat
  | count + 1, low, high, byte :: rest =>
      if low ≤ byte && byte ≤ high then continued count 0x80 0xbf rest + 1 else 0
  | _, _, _, _ => 0

/-- The first fault of bytes that start at the offset `start`. -/
def firstFaultFrom (start : Nat) : List UInt8 → Option Fault
  | [] => none
  | lead :: rest =>
      if lead < 0x80 then firstFaultFrom (start + 1) rest
      else
        match continuation? lead with
        | none => some ⟨start, 1, lead, .invalidStart⟩
        | some (count, low, high) =>
            let good := continued count low high rest
            if good = count then firstFaultFrom (start + 1 + count) (rest.drop count)
            else
              some ⟨start, good + 1, lead,
                if rest.length = good then .unexpectedEnd else .invalidContinuation⟩
  termination_by bytes => bytes.length
  decreasing_by
  · exact Nat.lt_succ_self rest.length
  · exact List.length_drop ▸ Nat.lt_succ_of_le (Nat.sub_le rest.length count)

/-- The first fault of a sequence of bytes. -/
def firstFault (bytes : ByteArray) : Option Fault :=
  firstFaultFrom 0 bytes.toList

/-- The text that the bytes encode, or their first fault. -/
def decode (bytes : ByteArray) : Except Fault String :=
  match String.fromUTF8? bytes with
  | some text => .ok text
  | none => .error ((firstFault bytes).getD ⟨0, bytes.size, 0, .unexpectedEnd⟩)

/-- The faulty bytes are the start of a character whose end may be yet to come. -/
def Fault.isIncomplete (fault : Fault) (bytes : List UInt8) : Bool :=
  match fault.kind, bytes.drop fault.start with
  | .unexpectedEnd, _ => true
  | .invalidContinuation, [0xed, next] => 0xa0 ≤ next && next ≤ 0xbf
  | _, _ => false

/-- What has been decoded of a file that is read in blocks: the text, the bytes of a character that
is not complete yet, and the fault that decoding stopped at. -/
structure BlockState where
  text : List Char := []
  pending : List UInt8 := []
  fault : Option Fault := none

/-- Decodes one block more. The offset of a fault counts from the pending bytes on. -/
def BlockState.feed (state : BlockState) (block : List UInt8) : BlockState :=
  if state.fault.isSome then state
  else
    let bytes := state.pending ++ block
    let decoded := fun part : List UInt8 =>
      ((String.fromUTF8? ⟨part.toArray⟩).map String.toList).getD []
    match firstFaultFrom 0 bytes with
    | none => { text := state.text ++ decoded bytes }
    | some fault =>
        if block.isEmpty || !fault.isIncomplete bytes then { state with fault := some fault }
        else
          { text := state.text ++ decoded (bytes.take fault.start)
            pending := bytes.drop fault.start }

/-- The blocks of the given size that bytes fall into; as many as the size asks for. -/
def blocks (size : Nat) : Nat → List UInt8 → List (List UInt8)
  | 0, _ => []
  | count + 1, bytes =>
      if bytes.isEmpty then [] else bytes.take size :: blocks size count (bytes.drop size)

/-- Decodes a file block by block. An empty block stands for the end of the file. -/
def decodeBlocks (size : Nat) (bytes : ByteArray) : BlockState :=
  (blocks size bytes.size bytes.toList ++ [[]]).foldl BlockState.feed {}

/-- Reading undoes writing. -/
theorem decode_toUTF8 (text : String) : decode text.toUTF8 = .ok text := by
  have whole : String.fromUTF8? text.toUTF8 = some text := by
    simp [String.fromUTF8?, text.isValidUTF8, String.fromUTF8]
  unfold decode
  rw [whole]

end ErrorTables.Text.Utf8
