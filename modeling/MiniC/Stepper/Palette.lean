import MiniC.Screen.Style
import MiniC.Token.Kind

/-!
# Colours of the stepper

One colour per role, and the style each kind of token is shown in.
-/

namespace MiniC

open Screen

namespace Palette

def text : Color := .rgb 205 214 244
def primary : Color := .rgb 137 180 250
def secondary : Color := .rgb 250 179 135
def dimmed : Color := .rgb 108 112 134
def success : Color := .rgb 166 227 161
def failure : Color := .rgb 243 139 168
def warning : Color := .rgb 249 226 175
def keyword : Color := .rgb 137 180 250
def typeName : Color := .rgb 148 226 213
def identifier : Color := .rgb 205 214 244
def literal : Color := .rgb 250 179 135
def operator : Color := .rgb 245 194 231
def focusedBorder : Color := .rgb 249 226 175
def border : Color := .rgb 108 112 134
def currentLine : Color := .rgb 50 50 70
def currentToken : Color := .rgb 88 91 112

end Palette

/-- The border of a pane, which stands out when the pane has the focus. -/
def borderStyle (focused : Bool) : Style :=
  if focused then (Style.fg Palette.focusedBorder).strong else .fg Palette.border

/-- Text between the tokens of a line, which is blanks and comments. -/
def gapStyle : Style := .fg Palette.dimmed

namespace Kind

/-- How tokens of a kind are shown. -/
def style (k : Kind) : Style :=
  if k.isTypeSpecifier then .fg Palette.typeName
  else if k.isLiteral then .fg Palette.literal
  else match k with
    | kwIf | kwElse | kwWhile | kwFor | kwReturn => (Style.fg Palette.keyword).strong
    | identifier => .fg Palette.identifier
    | leftBrace | rightBrace | leftBracket | rightBracket | leftParen | rightParen =>
      .fg Palette.primary
    | comma | semicolon => .fg Palette.text
    | eof => .fg Palette.dimmed
    | error => (Style.fg Palette.failure).strong
    | _ => .fg Palette.operator

end Kind

end MiniC
