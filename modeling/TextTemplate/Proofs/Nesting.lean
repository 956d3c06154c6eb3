import Mathlib.Data.Finset.Card
import Mathlib.Data.Finset.Dedup
import TextTemplate.Proofs.Flat

/-!
# How deep a rendering nests

A body that is gone into lacks the closing tag of the name it was found for. In a flat template that
is rendered with names and texts without braces no closing tag comes about either, so every body has
fewer closed names than the template around it. It does not matter that a truth value starts again
from the whole root context, nor that a list makes its template longer.
-/

set_option autoImplicit false

namespace TextTemplate

namespace Token

/-- The name of the section that a token closes. -/
def closedName? : Token → Option Text
  | .escaped ('/' :: name) _ => some name
  | _ => none

/-- The distinct names of which a closing tag is among the tokens. -/
def closedNames (tokens : List Token) : Finset Text :=
  (tokens.filterMap closedName?).toFinset

def Closes (names : Finset Text) (token : Token) : Prop :=
  ∀ name, token.content? = some ('/' :: name) → name ∈ names

private theorem closedName?_eq_some {name : Text} {token : Token}
    (closing : token.content? = some ('/' :: name)) : token.closedName? = some name := by
  cases token with
  | char c notBrace => cases closing
  | escaped content plain =>
      cases closing
      rfl
  | raw content plain unmarked =>
      cases closing
      exact absurd (Flat.marked_slash name) unmarked

private theorem closes_closedNames {tokens : List Token} {token : Token}
    (present : token ∈ tokens) :
    token.Closes (closedNames tokens) := by
  intro name closing
  apply List.mem_toFinset.mpr
  exact List.mem_filterMap.mpr ⟨token, present, closedName?_eq_some closing⟩

theorem Closes.erase {names : Finset Text} {name : Text} {token : Token}
    (closes : token.Closes names) (other : token.Without ('/' :: name)) :
    token.Closes (names.erase name) := by
  intro closed closing
  apply Finset.mem_erase.mpr
  constructor
  · rintro rfl
    exact other closing
  · exact closes closed closing

end Token

theorem flat_printAll (tokens : List Token) :
    Flat (Token.Closes (Token.closedNames tokens)) (Token.printAll tokens) :=
  ⟨tokens, fun _ present => Or.inr (Token.closes_closedNames present), rfl⟩

/-! ### Renderings -/

section

open Substitution Rendering

variable {names : Finset Text} {allowed : Token → Prop} {template : Text} {scope root : Context}
variable {nested : Text → Context → Rendering Text}

theorem itemsContent_flat {name text : Text → Prop} {items : List Value} {inner : Text}
    (itemHolds : name itemName) (values : ∀ item ∈ items, item.Every name text)
    (rendered : ∀ inner scope, Flat allowed inner → Entries.Every name text scope →
      Yields (Flat allowed) (nested inner scope))
    (flat : Flat allowed inner) : Yields (Flat allowed) (itemsContent nested items inner) := by
  have copies : Yields (fun texts => ∀ text ∈ texts, Flat allowed text)
      (items.mapM fun item => nested (loopBody inner) (itemScope item)) :=
    Yields.mapM fun item among =>
      rendered _ _ flat.loopBody (every_itemScope itemHolds (values item among))
  exact copies.bind fun texts each => Yields.pure (Flat.flatten each)

theorem spliceSections_flat {content : Text → Rendering Text} {kind : SectionKind} {name : Text}
    (plain : name.Plain)
    (contents : ∀ body, Flat allowed body → Yields (Flat allowed) (content body))
    (flat : Flat allowed template) :
    Yields (Flat allowed) (spliceSections content kind name template) := by
  have bodies : ∀ found ∈ Section.findAll kind name template,
      Yields (Flat allowed) (content found.body) := fun found present =>
    contents _ ((flat.body plain present).1.mono fun token holds => holds.1)
  apply spliceSections_yields flat bodies
  intro found present inner current innerFlat currentFlat
  have line : Flat allowed (inner ++ ['\n']) := innerFlat.append (Flat.of_plain (by decide))
  exact Flat.exchange plain flat present line currentFlat

theorem bindings_flat (rootPlain : Entries.Every Text.Plain Text.Plain root)
    (scopePlain : Entries.Every Text.Plain Text.Plain scope)
    (rendered : ∀ inner scope, Flat allowed inner → Entries.Every Text.Plain Text.Plain scope →
      Yields (Flat allowed) (nested inner scope))
    {binding : Text × Value} (bound : binding ∈ scope) (flat : Flat allowed template) :
    Yields (Flat allowed) (applyBinding nested root template binding) := by
  obtain ⟨keyPlain, valuePlain⟩ := scopePlain binding bound
  refine applyBinding_yields (Flat allowed) (Flat allowed) (Flat allowed) valuePlain rootPlain
    ?_ ?_ ?_ ?_ rendered ?_ flat
  · intro raw escaped template rawPlain escapedPlain flat
    exact (flat.fillTags keyPlain rawPlain escapedPlain).mono fun token holds => holds.1
  · intro kind template flat
    exact flat.removeAll keyPlain
  · intro kind template found present flat
    exact (flat.body keyPlain present).1.mono fun token holds => holds.1
  · intro kind template found present content current flat contentFlat currentFlat
    have line : Flat allowed (content ++ ['\n']) := contentFlat.append (Flat.of_plain (by decide))
    exact Flat.exchange keyPlain flat present line currentFlat
  · intro inner items flat values
    exact itemsContent_flat (by decide) values rendered flat

theorem substituteWithin_flat (depth : Nat) (rootPlain : Entries.Every Text.Plain Text.Plain root)
    (scopePlain : Entries.Every Text.Plain Text.Plain scope) (flat : Flat allowed template) :
    Yields (Flat allowed) (substituteWithin depth template scope root) := by
  induction depth generalizing template scope with
  | zero =>
      apply Yields.foldlM flat
      intro current binding bound currentFlat
      exact bindings_flat rootPlain scopePlain (fun _ _ _ _ => tooDeep_yields _) bound currentFlat
  | succ depth ih =>
      apply Yields.foldlM flat
      intro current binding bound currentFlat
      exact bindings_flat rootPlain scopePlain (fun _ _ flat plain => ih plain flat) bound
        currentFlat

private theorem binding_completes (rootPlain : Entries.Every Text.Plain Text.Plain root)
    (scopePlain : Entries.Every Text.Plain Text.Plain scope)
    (rendered : ∀ name ∈ names, ∀ inner scope, Flat (Token.Closes (names.erase name)) inner →
      Entries.Every Text.Plain Text.Plain scope → Completes (nested inner scope))
    {binding : Text × Value} (bound : binding ∈ scope)
    (flat : Flat (Token.Closes names) template) :
    Completes (applyBinding nested root template binding) := by
  obtain ⟨keyPlain, valuePlain⟩ := scopePlain binding bound
  -- A body is gone into only if its name is closed, and has one closed name less.
  refine applyBinding_completes (Flat (Token.Closes names))
    (fun inner => binding.1 ∈ names ∧ Flat (Token.Closes (names.erase binding.1)) inner)
    ?_ ?_ ?_ ?_ flat
  · intro kind template flat
    exact flat.removeAll keyPlain
  · intro kind template found present flat
    obtain ⟨bodyFlat, closes⟩ := flat.body keyPlain present
    have closed : binding.1 ∈ names := closes binding.1 rfl
    have fewer := bodyFlat.mono fun token holds => Token.Closes.erase holds.1 holds.2
    exact ⟨⟨closed, fewer⟩, closed, fewer.loopBody⟩
  · intro inner body scope among
    have scopePlain := every_scopes (by decide) valuePlain scope among
    exact rendered binding.1 body.1 inner scope body.2 scopePlain
  · intro _ inner body
    exact rendered binding.1 body.1 inner root body.2 rootPlain

theorem substituteWithin_completes {depth : Nat} (enough : names.card ≤ depth)
    (rootPlain : Entries.Every Text.Plain Text.Plain root)
    (scopePlain : Entries.Every Text.Plain Text.Plain scope)
    (flat : Flat (Token.Closes names) template) :
    Completes (substituteWithin depth template scope root) := by
  induction depth generalizing names template scope with
  | zero =>
      have none : names = ∅ := Finset.card_eq_zero.mp (Nat.le_zero.mp enough)
      refine Completes.foldlM flat ?_ ?_
      · intro current binding bound currentFlat
        exact bindings_flat rootPlain scopePlain (fun _ _ _ _ => tooDeep_yields _) bound currentFlat
      · intro current binding bound currentFlat
        refine binding_completes rootPlain scopePlain ?_ bound currentFlat
        intro name closed
        rw [none] at closed
        exact absurd closed (Finset.notMem_empty name)
  | succ depth ih =>
      refine Completes.foldlM flat ?_ ?_
      · intro current binding bound currentFlat
        refine bindings_flat rootPlain scopePlain ?_ bound currentFlat
        exact fun inner scope flat plain => substituteWithin_flat depth rootPlain plain flat
      · intro current binding bound currentFlat
        refine binding_completes rootPlain scopePlain ?_ bound currentFlat
        intro name closed inner innerScope innerFlat plain
        have fewer := Finset.card_erase_of_mem closed
        exact ih (by omega) plain innerFlat

/-- A flat template is rendered, and no rendering of a body is inside more others than the template
has closed names. -/
theorem nesting_le_card_closedNames (tokens : List Token)
    (scopePlain : Entries.Every Text.Plain Text.Plain scope)
    (rootPlain : Entries.Every Text.Plain Text.Plain root) (trail : Trail) :
    ∃ output after, ∀ depth, (Token.closedNames tokens).card ≤ depth →
      substituteWithin depth (Token.printAll tokens) scope root trail = some (output, after) := by
  have completes := substituteWithin_completes (Nat.le_refl _) rootPlain scopePlain
    (flat_printAll tokens)
  obtain ⟨⟨output, after⟩, done⟩ := completes trail
  refine ⟨output, after, fun depth enough => ?_⟩
  exact substituteWithin_extends enough _ scope root trail _ done

/-- A section opened twice and closed twice: its body has an opening tag of the same name, and the
truth value starts again from the context that holds it. One rendering inside the outermost is
enough, and none is not. -/
theorem nesting_of_reopened_section :
    let tokens : List Token :=
      [.escaped ['#', 'a'] (by decide), .escaped ['#', 'a'] (by decide), .char 'x' (by decide),
        .escaped ['/', 'a'] (by decide), .escaped ['/', 'a'] (by decide)]
    let scope : Context := [(['a'], .boolean true)]
    (Token.closedNames tokens).card = 1 ∧
      substituteWithin 0 (Token.printAll tokens) scope scope Trail.empty = none ∧
      ∃ output after, ∀ depth, 1 ≤ depth →
        substituteWithin depth (Token.printAll tokens) scope scope Trail.empty =
          some (output, after) := by
  intro tokens scope
  have plain : Entries.Every Text.Plain Text.Plain scope := .cons (by decide) (.boolean true) .nil
  exact ⟨by decide +kernel, by decide +kernel,
    nesting_le_card_closedNames tokens plain plain Trail.empty⟩

end

end TextTemplate
