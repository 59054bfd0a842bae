import IncidentAgent.Lib.JsonDict

/-!
# JSON texts

The texts that `json.dumps(value, ensure_ascii=False)` writes for a value, with its separators or
with shorter ones and sorted keys, and their bytes. Only what a text cannot hold is escaped:
quotation marks, backslashes and control characters; other characters are written as they are.

A text of Python may have unpaired surrogates, which no encoding accepts, and Lean has no
characters for them. The last 2048 characters of the private planes stand for them here
(`isSurrogate`): they take no other part in anything. A value with one of them has a text and no
bytes, and so has a number that is too long to be written (`Json.writable`).
-/

namespace IncidentAgent

/-- Whether a character stands for an unpaired surrogate. -/
def isSurrogate (c : Char) : Bool := 0x10F800 ≤ c.toNat

/-- A digit of the base 16. -/
def hexDigit (n : Nat) : Char := "0123456789abcdef".toList.getD n '0'

/-- A character in a JSON text. -/
def escaped (c : Char) : List Char :=
  if c = '"' then ['\\', '"']
  else if c = '\\' then ['\\', '\\']
  else if c = '\n' then ['\\', 'n']
  else if c = '\r' then ['\\', 'r']
  else if c = '\t' then ['\\', 't']
  else if c.toNat = 8 then ['\\', 'b']
  else if c.toNat = 12 then ['\\', 'f']
  else if c.toNat < 32 then
    ['\\', 'u', '0', '0', hexDigit (c.toNat / 16), hexDigit (c.toNat % 16)]
  else [c]

/-- A text in quotation marks. -/
def quoted (s : String) : List Char := '"' :: (s.toList.flatMap escaped ++ ['"'])

namespace Json

mutual

/-- `json.dumps(value, ensure_ascii=False, separators=(comma, colon))`. -/
def dumpsBy (comma colon : List Char) : Json → List Char
  | .null => "null".toList
  | .bool true => "true".toList
  | .bool false => "false".toList
  | .num n => (toString n).toList
  | .str s => quoted s
  | .arr items => '[' :: (dumpsItems comma colon items ++ [']'])
  | .obj members => '\x7b' :: (dumpsMembers comma colon members ++ ['\x7d'])

/-- The items of an array, with separators between them. -/
def dumpsItems (comma colon : List Char) : List Json → List Char
  | [] => []
  | [v] => v.dumpsBy comma colon
  | v :: w :: rest => v.dumpsBy comma colon ++ (comma ++ dumpsItems comma colon (w :: rest))

/-- The members of an object, with separators between them. -/
def dumpsMembers (comma colon : List Char) : List (String × Json) → List Char
  | [] => []
  | [(k, v)] => quoted k ++ (colon ++ v.dumpsBy comma colon)
  | (k, v) :: m :: rest =>
    quoted k ++ (colon ++ (v.dumpsBy comma colon ++ (comma ++ dumpsMembers comma colon (m :: rest))))

end

/-- `json.dumps(value, ensure_ascii=False)`. -/
def dumps (v : Json) : List Char := v.dumpsBy [',', ' '] [':', ' ']

/-- `json.dumps(value, sort_keys=True, ensure_ascii=False, separators=(",", ":"))`. -/
def compact (v : Json) : List Char := v.canonical.dumpsBy [','] [':']

/-- Whether a text has no unpaired surrogates. -/
def isEncodable (s : String) : Bool := s.toList.all fun c => !isSurrogate c

mutual

/-- Whether a value can be written as bytes: its texts have no unpaired surrogates, and its
numbers at most 4300 digits. -/
def writable : Json → Bool
  | .num n => n.natAbs < 10 ^ 4300
  | .str s => isEncodable s
  | .arr items => writableItems items
  | .obj members => writableMembers members
  | _ => true

def writableItems : List Json → Bool
  | [] => true
  | v :: rest => v.writable && writableItems rest

def writableMembers : List (String × Json) → Bool
  | [] => true
  | (k, v) :: rest => isEncodable k && v.writable && writableMembers rest

end

/-- `json.dumps(value, ensure_ascii=False).encode()`, which raises where a value cannot be
written. -/
def encoded (v : Json) : Option (List UInt8) :=
  if v.writable then some (v.dumps.flatMap String.utf8EncodeChar) else none

/-- The number of bytes of a text. -/
def byteSize (text : List Char) : Nat := (text.flatMap String.utf8EncodeChar).length

mutual

/-- Whether each object in a value has each of its keys once, as a dictionary has. -/
def distinct : Json → Bool
  | .arr items => distinctItems items
  | .obj members => distinctMembers members
  | _ => true

def distinctItems : List Json → Bool
  | [] => true
  | v :: rest => v.distinct && distinctItems rest

def distinctMembers : List (String × Json) → Bool
  | [] => true
  | (k, v) :: rest => v.distinct && !(rest.any fun m => m.1 = k) && distinctMembers rest

end

end Json

end IncidentAgent
