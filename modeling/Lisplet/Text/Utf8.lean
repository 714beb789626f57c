import Lisplet.Text.Quoted

/-!
The UTF-8 encoding form. Decoding goes byte by byte and keeps the unfinished sequence it is in, so
a malformed sequence is the longest prefix of a well-formed one that the bytes offer, and the byte
after it starts afresh.
-/

namespace Lisplet

namespace Utf8

inductive Malformed
  | startByte (byte : UInt8) (start : Nat)
  | continuationByte (leadByte : UInt8) (start stop : Nat)
  | unexpectedEnd (leadByte : UInt8) (start stop : Nat)

/-- A sequence that lacks its last bytes. The next byte has to lie between `low` and `high`. -/
structure Unfinished where
  leadByte : UInt8
  start : Nat
  missing : Nat
  low : Nat
  high : Nat
  value : Nat

inductive Opening
  | single (point : CodePoint)
  | unfinished (sequence : Unfinished)
  | invalid

def opening (position : Nat) (byte : UInt8) : Opening :=
  let number := byte.toNat
  let sequence (missing low high value : Nat) : Opening :=
    .unfinished ⟨byte, position, missing, low, high, value⟩
  if ascii : number < 0x80 then .single ⟨number, by omega⟩
  else if number < 0xC2 then .invalid
  else if number < 0xE0 then sequence 1 0x80 0xBF (number - 0xC0)
  else if number = 0xE0 then sequence 2 0xA0 0xBF 0
  else if number = 0xED then sequence 2 0x80 0x9F 0xD
  else if number < 0xF0 then sequence 2 0x80 0xBF (number - 0xE0)
  else if number = 0xF0 then sequence 3 0x90 0xBF 0
  else if number < 0xF4 then sequence 3 0x80 0xBF (number - 0xF0)
  else if number = 0xF4 then sequence 3 0x80 0x8F 4
  else .invalid

def piecesFrom (position : Nat) (open? : Option Unfinished) :
    List UInt8 → List (Except Malformed CodePoint)
  | [] =>
    match open? with
    | none => []
    | some sequence => [.error (.unexpectedEnd sequence.leadByte sequence.start position)]
  | byte :: rest =>
    let afresh (_ : Unit) : List (Except Malformed CodePoint) :=
      match opening position byte with
      | .single point => .ok point :: piecesFrom (position + 1) none rest
      | .unfinished sequence => piecesFrom (position + 1) (some sequence) rest
      | .invalid => .error (.startByte byte position) :: piecesFrom (position + 1) none rest
    match open? with
    | none => afresh ()
    | some sequence =>
      if sequence.low ≤ byte.toNat ∧ byte.toNat ≤ sequence.high then
        let value := sequence.value * 64 + byte.toNat % 64
        if sequence.missing ≤ 1 then
          match CodePoint.ofNat? value with
          | some point => .ok point :: piecesFrom (position + 1) none rest
          | none => piecesFrom (position + 1) none rest
        else
          piecesFrom (position + 1)
            (some { sequence with missing := sequence.missing - 1, low := 0x80, high := 0xBF, value })
            rest
      else
        .error (.continuationByte sequence.leadByte sequence.start position) :: afresh ()

def pieces (bytes : List UInt8) : List (Except Malformed CodePoint) :=
  piecesFrom 0 none bytes

def decodeDropping (bytes : List UInt8) : Text :=
  (pieces bytes).filterMap Except.toOption

def decode (bytes : List UInt8) : Except Malformed Text :=
  (pieces bytes).mapM id

def encodePoint (point : CodePoint) : List UInt8 :=
  let number := point.val
  let following (unit : Nat) : UInt8 := UInt8.ofNat (0x80 + number / unit % 64)
  if number < 0x80 then [UInt8.ofNat number]
  else if number < 0x800 then [UInt8.ofNat (0xC0 + number / 64), following 1]
  else if number < 0x10000 then
    [UInt8.ofNat (0xE0 + number / 0x1000), following 64, following 1]
  else [UInt8.ofNat (0xF0 + number / 0x40000), following 0x1000, following 64, following 1]

def encode (text : Text) : List UInt8 :=
  text.flatMap encodePoint

namespace Malformed

def message : Malformed → Text
  | startByte byte start => oneByte byte start ++ ": invalid start byte"
  | continuationByte byte start stop => extent byte start stop ++ ": invalid continuation byte"
  | unexpectedEnd byte start stop => extent byte start stop ++ ": unexpected end of data"
where
  oneByte (byte : UInt8) (start : Nat) : Text :=
    "'utf-8' codec can't decode byte 0x" ++ Text.hexDigits 2 byte.toNat ++ " in position "
      ++ Text.ofNat start
  extent (byte : UInt8) (start stop : Nat) : Text :=
    if stop ≤ start + 1 then oneByte byte start
    else
      "'utf-8' codec can't decode bytes in position " ++ Text.ofNat start ++ "-"
        ++ Text.ofNat (stop - 1)

end Malformed

end Utf8

namespace Text

def withLineFeeds : Text → Text
  | [] => []
  | point :: rest =>
    let feed := CodePoint.ofChar '\n'
    if point = CodePoint.ofChar '\r' then
      match rest with
      | [] => [feed]
      | next :: others =>
        if next = feed then feed :: withLineFeeds others else feed :: withLineFeeds (next :: others)
    else point :: withLineFeeds rest

end Text

end Lisplet
