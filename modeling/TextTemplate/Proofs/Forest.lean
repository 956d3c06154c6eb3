import TextTemplate.Proofs.Token

/-!
# Templates as forests

A balanced template is a printed forest: characters, tags, and blocks around forests of their own.
On a forest no text is searched for. A tag is filled and a block is replaced as the node that it is,
where it stands; the only effect on what is around it is that the line feeds behind a block go with
it. What is printed, which blocks a truth value keeps, the scope of an item and the blanks dropped
from a repeated body are written out here, and not taken from what rendering does.
-/

set_option autoImplicit false

namespace TextTemplate

inductive TagForm where
  | raw
  | escaped
  deriving DecidableEq, Repr

namespace TagForm

def tag : TagForm → Text → Text
  | .raw, name => ['{', '{', '{'] ++ name ++ ['}', '}', '}']
  | .escaped, name => ['{', '{'] ++ name ++ ['}', '}']

/-- How a value is written in place of such a tag. -/
def written : TagForm → Text → Text
  | .raw => id
  | .escaped => Markup.escape

end TagForm

/-- A name that stands in tags without being mistaken for part of them. -/
structure Tag.IsName (name : Text) : Prop where
  plain : name.Plain
  unmarked : ¬Tag.Marked name

instance (name : Text) : Decidable (Tag.IsName name) :=
  decidable_of_iff (name.Plain ∧ ¬Tag.Marked name)
    ⟨fun holds => ⟨holds.1, holds.2⟩, fun holds => ⟨holds.plain, holds.unmarked⟩⟩

/-- Every node has the rest of the forest behind it. -/
inductive Forest where
  | nil
  | char (c : Char) (rest : Forest)
  | tag (form : TagForm) (name : Text) (rest : Forest)
  | block (kind : SectionKind) (name : Text) (body rest : Forest)
  deriving DecidableEq, Repr

namespace Forest

def sign : SectionKind → Char
  | .positive => '#'
  | .negative => '^'

def print : Forest → Text
  | .nil => []
  | .char c rest => c :: rest.print
  | .tag form name rest => form.tag name ++ rest.print
  | .block kind name body rest =>
      ['{', '{'] ++ sign kind :: name ++ ['}', '}'] ++
        (body.print ++ (['{', '{', '/'] ++ name ++ ['}', '}'] ++ rest.print))

def names : Forest → List Text
  | .nil => []
  | .char _ rest => rest.names
  | .tag _ _ rest => rest.names
  | .block _ name body rest => name :: (body.names ++ rest.names)

/-- The texts have no braces, the names are names, and no block is inside another of its name. -/
def Balanced : Forest → Prop
  | .nil => True
  | .char c rest => (c ≠ '{' ∧ c ≠ '}') ∧ rest.Balanced
  | .tag _ name rest => Tag.IsName name ∧ rest.Balanced
  | .block _ name body rest =>
      Tag.IsName name ∧ name ∉ body.names ∧ body.Balanced ∧ rest.Balanced

instance decidableBalanced : (forest : Forest) → Decidable forest.Balanced
  | .nil => inferInstanceAs (Decidable True)
  | .char _ rest =>
      have := decidableBalanced rest
      inferInstanceAs (Decidable (_ ∧ _))
  | .tag _ _ rest =>
      have := decidableBalanced rest
      inferInstanceAs (Decidable (_ ∧ _))
  | .block _ _ body rest =>
      have := decidableBalanced body
      have := decidableBalanced rest
      inferInstanceAs (Decidable (_ ∧ _ ∧ _ ∧ _))

/-! ### Putting forests together -/

def append : Forest → Forest → Forest
  | .nil, behind => behind
  | .char c rest, behind => .char c (rest.append behind)
  | .tag form name rest, behind => .tag form name (rest.append behind)
  | .block kind name body rest, behind => .block kind name body (rest.append behind)

instance : Append Forest := ⟨append⟩

def ofText (text : Text) : Forest :=
  text.foldr .char .nil

def join (forests : List Forest) : Forest :=
  forests.foldr append .nil

/-! ### Tags -/

def hasTag (form : TagForm) (name : Text) : Forest → Bool
  | .nil => false
  | .char _ rest => rest.hasTag form name
  | .tag other key rest => (other = form ∧ key = name) || rest.hasTag form name
  | .block _ _ body rest => body.hasTag form name || rest.hasTag form name

def fill (form : TagForm) (name text : Text) : Forest → Forest
  | .nil => .nil
  | .char c rest => .char c (rest.fill form name text)
  | .tag other key rest =>
      if other = form ∧ key = name then ofText text ++ rest.fill form name text
      else .tag other key (rest.fill form name text)
  | .block kind key body rest =>
      .block kind key (body.fill form name text) (rest.fill form name text)

/-! ### The body of a repeated block -/

def blanks : List Char :=
  [' ', '\t', '\n', '\x0b', '\x0c', '\r']

def dropBlanks : Forest → Forest
  | .char c rest => if c ∈ blanks then rest.dropBlanks else .char c rest
  | forest => forest

/-- Without the last line feed, or the last two, if nothing stands behind them. -/
def dropFinalBreaks : Forest → Forest
  | .nil => .nil
  | .char '\n' .nil => .nil
  | .char '\n' (.char '\n' .nil) => .nil
  | .char c rest => .char c rest.dropFinalBreaks
  | .tag form name rest => .tag form name rest.dropFinalBreaks
  | .block kind name body rest => .block kind name body rest.dropFinalBreaks

def loopBody (body : Forest) : Forest :=
  body.dropBlanks.dropFinalBreaks ++ ofText ['\n']

/-! ### Blocks -/

/-- Put what is made of its body in place of every block of a kind and name, and drop the line feeds
behind it. `behind` tells that such a block stands in front. -/
def replaceBlocks (put : Forest → Rendering Forest) (kind : SectionKind) (name : Text)
    (behind : Bool) : Forest → Rendering Forest
  | .nil => pure .nil
  | .char c rest =>
      if behind ∧ c = '\n' then rest.replaceBlocks put kind name true
      else do
        let rest ← rest.replaceBlocks put kind name false
        pure (.char c rest)
  | .tag form key rest => do
      let rest ← rest.replaceBlocks put kind name false
      pure (.tag form key rest)
  | .block other key body rest =>
      if other = kind ∧ key = name then do
        let content ← put body
        let rest ← rest.replaceBlocks put kind name true
        pure (content ++ rest)
      else do
        let body ← body.replaceBlocks put kind name false
        let rest ← rest.replaceBlocks put kind name false
        pure (.block other key body rest)

def removeBlocks (kind : SectionKind) (name : Text) (forest : Forest) : Rendering Forest :=
  forest.replaceBlocks (fun _ => pure .nil) kind name false

def spliceBlocks (content : Forest → Rendering Forest) (kind : SectionKind) (name : Text)
    (forest : Forest) : Rendering Forest :=
  forest.replaceBlocks
    (fun body => do
      let text ← content body
      pure (text ++ ofText ['\n']))
    kind name false

/-! ### Bindings

`nested` interprets a body in a scope, one level deeper. -/

def fillScalar (name text : Text) (forest : Forest) : Forest :=
  (forest.fill .raw name text).fill .escaped name (Markup.escape text)

/-- Each form of tag that is there has an invocation of its own. -/
def fillForm (form : TagForm) (name : Text) (source : Deferred) (forest : Forest) :
    Rendering Forest :=
  if forest.hasTag form name then do
    let text ← Rendering.invoke source
    pure (forest.fill form name (form.written text))
  else pure forest

def fillDeferred (name : Text) (source : Deferred) (forest : Forest) : Rendering Forest := do
  let forest ← forest.fillForm .raw name source
  forest.fillForm .escaped name source

/-- A map is the scope of its copy, an empty list has none to give, and any other item is bound to
an underscore. -/
def scopeOf : Value → Context
  | .map entries => entries
  | .list [] => []
  | item => [(['_'], item)]

def copies (nested : Forest → Context → Rendering Forest) (items : List Value) (body : Forest) :
    Rendering Forest := do
  let forests ← items.mapM (fun item => nested body.loopBody (scopeOf item))
  pure (join forests)

/-- Remove the blocks of one kind, and have those of the other interpreted in the root context. -/
def condition (nested : Forest → Context → Rendering Forest) (root : Context)
    (dropped kept : SectionKind) (name : Text) (forest : Forest) : Rendering Forest := do
  let forest ← forest.removeBlocks dropped name
  forest.spliceBlocks (fun body => nested body root) kept name

def applyValue (nested : Forest → Context → Rendering Forest) (root : Context) (name : Text)
    (forest : Forest) : Value → Rendering Forest
  | .list [] => forest.removeBlocks .positive name
  | .list items => forest.spliceBlocks (copies nested items) .positive name
  | .map [] => forest.removeBlocks .positive name
  | .map entries => forest.spliceBlocks (fun body => nested body entries) .positive name
  | .boolean true => forest.condition nested root .negative .positive name
  | .boolean false => forest.condition nested root .positive .negative name
  | .deferred source => forest.fillDeferred name source
  | .scalar text => pure (forest.fillScalar name text)
  | .unsupported => do
      Rendering.note (.skippingUnsupported name)
      pure forest

def applyBinding (nested : Forest → Context → Rendering Forest) (root : Context) (forest : Forest)
    (binding : Text × Value) : Rendering Forest := do
  Rendering.note (.substituting binding.1 binding.2.kind)
  forest.applyValue nested root binding.1 binding.2

/-- Apply the bindings of a scope to a forest, in order, with at most `depth` interpretations of
bodies inside one another below this one. -/
def interpretWithin (depth : Nat) (forest : Forest) (scope root : Context) : Rendering Forest :=
  let nested : Forest → Context → Rendering Forest :=
    match depth with
    | 0 => fun _ _ => Rendering.tooDeep
    | depth + 1 => fun body inner => interpretWithin depth body inner root
  scope.foldlM (applyBinding nested root) forest

/-! ### What is printed -/

variable {forest front behind : Forest} {text : Text}

theorem print_block (kind : SectionKind) (name : Text) (body rest : Forest) :
    (block kind name body rest).print =
      Tag.openSection kind name ++ (body.print ++ (Tag.closeSection name ++ rest.print)) :=
  rfl

theorem scopeOf_eq (item : Value) : scopeOf item = Substitution.itemScope item :=
  rfl

theorem mem_blanks_iff (c : Char) : c ∈ blanks ↔ Substitution.isLeadingBlank c = true := by
  simp [blanks, Substitution.isLeadingBlank]

theorem print_append (front behind : Forest) :
    (front ++ behind).print = front.print ++ behind.print := by
  induction front with
  | nil => rfl
  | char c rest ih => exact congrArg (c :: ·) ih
  | tag form name rest ih =>
      change form.tag name ++ (rest ++ behind).print = form.tag name ++ rest.print ++ behind.print
      rw [ih, List.append_assoc]
  | block kind name body rest _ ih =>
      change Tag.openSection kind name ++ (body.print ++ (Tag.closeSection name ++
        (rest ++ behind).print)) = _
      rw [ih, print_block]
      simp only [List.append_assoc]

theorem print_ofText (text : Text) : (ofText text).print = text := by
  induction text with
  | nil => rfl
  | cons c text ih => exact congrArg (c :: ·) ih

theorem print_join (forests : List Forest) :
    (join forests).print = (forests.map print).flatten := by
  induction forests with
  | nil => rfl
  | cons forest forests ih =>
      change (forest ++ join forests).print = forest.print ++ (forests.map print).flatten
      rw [print_append, ih]

theorem names_append (front behind : Forest) :
    (front ++ behind).names = front.names ++ behind.names := by
  induction front with
  | nil => rfl
  | char c rest ih => exact ih
  | tag form name rest ih => exact ih
  | block kind name body rest _ ih =>
      change name :: (body.names ++ (rest ++ behind).names) =
        name :: (body.names ++ rest.names) ++ behind.names
      rw [ih, List.cons_append, List.append_assoc]

theorem names_ofText (text : Text) : (ofText text).names = [] := by
  induction text with
  | nil => rfl
  | cons c text ih => exact ih

theorem Balanced.append (first : front.Balanced) (second : behind.Balanced) :
    (front ++ behind).Balanced := by
  induction front with
  | nil => exact second
  | char c rest ih => exact ⟨first.1, ih first.2⟩
  | tag form name rest ih => exact ⟨first.1, ih first.2⟩
  | block kind name body rest _ ih => exact ⟨first.1, first.2.1, first.2.2.1, ih first.2.2.2⟩

theorem balanced_ofText (plain : text.Plain) : (ofText text).Balanced := by
  induction text with
  | nil => trivial
  | cons c text ih =>
      obtain ⟨notBrace, restPlain⟩ := Text.plain_cons_iff.mp plain
      exact ⟨notBrace, ih restPlain⟩

/-! ### Forests within a forest -/

/-- Made from a balanced forest: balanced, and without blocks of new names. -/
structure Within (forest result : Forest) : Prop where
  balanced : result.Balanced
  names : result.names ⊆ forest.names

namespace Within

variable {result : Forest}

theorem refl (balanced : forest.Balanced) : Within forest forest :=
  ⟨balanced, List.Subset.refl _⟩

theorem trans {between : Forest} (first : Within forest between) (second : Within between result) :
    Within forest result :=
  ⟨second.balanced, List.Subset.trans second.names first.names⟩

theorem nil : Within forest .nil :=
  ⟨trivial, List.nil_subset _⟩

theorem of_text (plain : text.Plain) : Within forest (ofText text) :=
  ⟨balanced_ofText plain, by rw [names_ofText]; exact List.nil_subset _⟩

theorem append {other : Forest} (first : Within forest result) (second : Within forest other) :
    Within forest (result ++ other) := by
  refine ⟨first.balanced.append second.balanced, ?_⟩
  rw [names_append]
  exact List.append_subset.mpr ⟨first.names, second.names⟩

theorem join {results : List Forest} (each : ∀ result ∈ results, Within forest result) :
    Within forest (Forest.join results) := by
  induction results with
  | nil => exact nil
  | cons result results ih =>
      exact (each result List.mem_cons_self).append
        (ih fun later present => each later (List.mem_cons_of_mem result present))

end Within

end Forest
end TextTemplate
