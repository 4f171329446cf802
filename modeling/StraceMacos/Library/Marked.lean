import StraceMacos.Library.Text

/-!
# Marked texts

A text as a sequence of tokens with marks between them, such as the codes that switch the colour of
a terminal. Without its marks such a text is the text of its tokens.
-/

namespace Marked

open Text

/-- A piece of a marked text. -/
inductive Piece where
  | token (s : String)
  | mark (s : String)
  deriving DecidableEq, Repr

def Piece.text : Piece → String
  | token s => s
  | mark s => s

def Piece.token? : Piece → Option String
  | token s => some s
  | mark _ => none

/-- The marked text. -/
def render (pieces : List Piece) : String :=
  join "" (pieces.map Piece.text)

def tokens (pieces : List Piece) : List String :=
  pieces.filterMap Piece.token?

/-- All marks of a text are among the given ones. -/
def MarksIn (marks : List String) (pieces : List Piece) : Prop :=
  ∀ s, .mark s ∈ pieces → s ∈ marks

variable {pieces pieces' : List Piece} {marks : List String}

theorem render_append (pieces pieces' : List Piece) :
    render (pieces ++ pieces') = render pieces ++ render pieces' := by
  rw [render, List.map_append, join_append]
  rfl

theorem tokens_append (pieces pieces' : List Piece) :
    tokens (pieces ++ pieces') = tokens pieces ++ tokens pieces' :=
  List.filterMap_append

theorem MarksIn.append (h : MarksIn marks pieces) (h' : MarksIn marks pieces') :
    MarksIn marks (pieces ++ pieces') := fun s hs =>
  (List.mem_append.mp hs).elim (h s) (h' s)

theorem render_intercalate (sep : List Piece) (l : List (List Piece)) :
    render (List.intercalate sep l) = join (render sep) (l.map render) := by
  have hrender : render = fun pieces => join "" (pieces.flatMap fun piece => [piece.text]) := by
    funext pieces
    rw [render, List.map_eq_flatMap]
  simp only [hrender, flatMap_intercalate, join_intercalate, List.map_map, Function.comp_def]

theorem tokens_intercalate (sep : List Piece) (l : List (List Piece)) :
    tokens (List.intercalate sep l) = List.intercalate (tokens sep) (l.map tokens) := by
  have htokens : tokens = List.flatMap fun piece => piece.token?.toList := by
    funext pieces
    exact List.filterMap_eq_flatMap_toList _ _
  rw [htokens, flatMap_intercalate]

theorem MarksIn.intercalate {sep : List Piece} {l : List (List Piece)} (hsep : MarksIn marks sep)
    (h : ∀ pieces ∈ l, MarksIn marks pieces) : MarksIn marks (List.intercalate sep l) := by
  induction l with
  | nil => exact fun s hs => absurd hs (by simp)
  | cons pieces l ih =>
    have hpieces := h pieces List.mem_cons_self
    cases l with
    | nil => simpa using hpieces
    | cons pieces' l =>
      rw [List.intercalate_cons_cons]
      exact (hpieces.append hsep).append (ih fun p hp => h p (List.mem_cons_of_mem _ hp))

/-- With empty marks a text is the text of its tokens. -/
theorem render_of_empty_marks (h : MarksIn [""] pieces) :
    render pieces = join "" (tokens pieces) := by
  apply String.toList_injective
  rw [render, toList_join_empty, toList_join_empty]
  induction pieces with
  | nil => rfl
  | cons piece pieces ih =>
    have hrest := ih fun s hs => h s (List.mem_cons_of_mem _ hs)
    cases piece with
    | token s => simpa [tokens, Piece.token?, Piece.text] using hrest
    | mark s =>
      obtain rfl : s = "" := by simpa using h s List.mem_cons_self
      have hmark : (Piece.mark "" :: pieces).filterMap Piece.token? =
          pieces.filterMap Piece.token? := rfl
      rw [tokens, hmark, List.map_cons, List.flatMap_cons]
      exact hrest

end Marked
