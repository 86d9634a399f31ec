import RowShape.Json.Value

/-!
# JSON pointers

A pointer leads from a JSON value to one inside it.  It is a list of tokens, each behind a slash,
and every token goes one step down: to the member of an object that has its name, or to the item of
an array that has its number.  As slashes stand between tokens, a slash inside a name is written as
`~1`, and a tilde as `~0`.

## Main definitions

* `Pointer.unescape`: the name that a token is written for
* `Pointer.step`, `Pointer.follow`: one step down, and steps one after another
* `Pointer.evaluate`: where a pointer leads

## Main results

* `Pointer.unescape_of_notMem`: a token without tildes is its own name
* `Pointer.evaluate_slash`: a pointer is followed token by token
-/

namespace RowShape.Json.Pointer

/-! ### Tokens -/

/-- The name that a token is written for. -/
def unescape : List Char → List Char
  | '~' :: '0' :: rest => '~' :: unescape rest
  | '~' :: '1' :: rest => '/' :: unescape rest
  | c :: rest => c :: unescape rest
  | [] => []

/-- A token without tildes is its own name. -/
theorem unescape_of_notMem {token : List Char} (h : '~' ∉ token) : unescape token = token := by
  fun_induction unescape token with
  | case1 | case2 => simp at h
  | case3 c rest _ _ ih => rw [ih fun tilde => h (List.mem_cons_of_mem c tilde)]
  | case4 => rfl

/-! ### Steps -/

/-- One step down: to a member of an object, or to an item of an array. -/
def step (name : String) : Json → Option Json
  | .array items => (items.zipIdx.find? fun item => toString item.2 == name).map (·.1)
  | v => v.member? name

/-- Steps down one after another. -/
def follow : List (List Char) → Json → Option Json
  | [], v => some v
  | token :: rest, v => (step (String.ofList (unescape token)) v).bind (follow rest)

/-- Where a pointer leads.  The empty pointer leads to the value itself, and every other one begins
with a slash. -/
def evaluate (pointer : String) (v : Json) : Option Json :=
  match pointer.toList.splitOn '/' with
  | [] :: tokens => follow tokens v
  | _ => none

theorem evaluate_slash (tokens : List Char) (v : Json) :
    evaluate (String.ofList ('/' :: tokens)) v = follow (tokens.splitOn '/') v := by
  have slash : ('/' :: tokens).splitOn '/' = [] :: tokens.splitOn '/' :=
    List.splitOn_append_cons_self [] tokens
  rw [evaluate, String.toList_ofList, slash]

end RowShape.Json.Pointer
