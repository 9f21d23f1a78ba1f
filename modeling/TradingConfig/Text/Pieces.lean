/-
  TradingConfig.Text.Pieces
  ────────────────────────────────
  **THE PIECES OF A TEXT BETWEEN ITS SEPARATORS.**
-/

namespace TradingConfig

/-- The pieces between the separators; there is one piece more than there
are separators, and a piece may be empty. -/
def piecesBetween (separator : Char) : List Char → List (List Char)
  | [] => [[]]
  | c :: rest =>
    if c = separator then [] :: piecesBetween separator rest
    else match piecesBetween separator rest with
      | [] => [[c]]
      | piece :: pieces => (c :: piece) :: pieces

end TradingConfig
