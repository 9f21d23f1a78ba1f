/-
  TradingConfig.Text.Symbol
  ────────────────────────────────
  **THE CONTENT OF A FILE AS A SEQUENCE OF SYMBOLS.**

  A file holds bytes.  Where the bytes are UTF-8 text, the symbols of the
  file are the characters of that text (`ofBytes_toUTF8`); where they are
  not, every byte that belongs to no character stands as a symbol of its
  own, so that a reader can still say where the text breaks.
-/

namespace TradingConfig

/-- One character of a text, or one byte that belongs to no character. -/
inductive Symbol where
  /-- A character. -/
  | char (c : Char)
  /-- A byte outside of every well-formed UTF-8 sequence. -/
  | stray (byte : UInt8)
  deriving DecidableEq, Repr

namespace Symbol

/-- The number of bytes that a symbol takes in its file. -/
def width : Symbol → Nat
  | .char c => c.utf8Size
  | .stray _ => 1

/-- The number of bytes that a sequence of symbols takes. -/
def totalWidth (symbols : List Symbol) : Nat :=
  symbols.foldr (fun symbol total => symbol.width + total) 0

/-- The symbols of a text are its characters. -/
def ofText (text : String) : List Symbol :=
  text.toList.map .char

/-- The symbols of arbitrary bytes from position `i` on, at most `count` of
them: a character where one starts, else the single byte. -/
def salvage (bytes : ByteArray) : (count : Nat) → (i : Nat) → List Symbol
  | 0, _ => []
  | count + 1, i =>
    if _ : i < bytes.size then
      match bytes.utf8DecodeChar? i with
      | some c => .char c :: salvage bytes count (i + c.utf8Size)
      | none => .stray bytes[i] :: salvage bytes count (i + 1)
    else []

/-- The symbols of a file's bytes. -/
def ofBytes (bytes : ByteArray) : List Symbol :=
  match String.fromUTF8? bytes with
  | some text => ofText text
  | none => salvage bytes bytes.size 0

/-- A file that holds a text has the characters of the text as its symbols. -/
theorem ofBytes_toUTF8 (text : String) : ofBytes text.toUTF8 = ofText text := by
  have valid : text.toUTF8.IsValidUTF8 := text.isValidUTF8
  simp only [ofBytes, String.fromUTF8?, valid, dite_true]
  rfl

end Symbol

end TradingConfig
