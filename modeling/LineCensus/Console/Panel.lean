/-
# Console.Panel -- a text in a frame

The frame is as wide as the longest line of the text, with a blank on either
side, and never wider than the console; longer lines are wrapped.
-/
import LineCensus.Console.Wrap
import LineCensus.Text.Lines

set_option autoImplicit false

namespace LineCensus
namespace Panel

def barH : Char := Char.ofNat 0x2500
def barV : Char := Char.ofNat 0x2502
def cornerTL : Char := Char.ofNat 0x256D
def cornerTR : Char := Char.ofNat 0x256E
def cornerBL : Char := Char.ofNat 0x2570
def cornerBR : Char := Char.ofNat 0x256F

/-- The width between the bars of a frame around a text. -/
def innerWidth (glyphs : Glyphs) (width : Nat) (title content : Text) : Nat :=
  min (width - 2)
    (max (min (Wrap.naturalWidth glyphs content.rows + 2) (width - 2)) (glyphs.length title + 2))

/-- The lines of a framed text. -/
def lines (glyphs : Glyphs) (width : Nat) (title content : Text) : List Text :=
  let inner := innerWidth glyphs width title content
  let body := Wrap.page glyphs (inner - 2) content
  (cornerTL :: barH :: Wrap.centre glyphs (inner - 2) barH title ++ [barH, cornerTR])
    :: (body.map fun line =>
      barV :: ' ' :: Wrap.padRight glyphs (inner - 2) line ++ [' ', barV])
    ++ [cornerBL :: List.replicate inner barH ++ [cornerBR]]

end Panel
end LineCensus
