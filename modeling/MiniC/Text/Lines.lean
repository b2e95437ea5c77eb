/-!
# Lines of a text

A newline ends a line and belongs to none; a carriage return just before it goes with it. Text
after the last newline is a line of its own, and nothing after it is not.
-/

namespace MiniC

/-- The line without a carriage return at its end. -/
def dropReturn (line : List Char) : List Char :=
  if line.getLast? = some '\r' then line.dropLast else line

/-- The lines of a text, in order. -/
def lines (cs : List Char) : List (List Char) :=
  match cs with
  | [] => []
  | c :: cs =>
    let line := (c :: cs).takeWhile (· != '\n')
    match _ : (c :: cs).dropWhile (· != '\n') with
    | [] => [line]
    | _ :: rest => dropReturn line :: lines rest
termination_by cs.length
decreasing_by
  have h := congrArg List.length (List.takeWhile_append_dropWhile (p := (· != '\n')) (l := c :: cs))
  simp only [List.length_append, ‹_ = _ :: rest›, List.length_cons] at h
  simp only [List.length_cons]
  omega

end MiniC
