import CustomResource.Declaration.Rendering
import CustomResource.Proofs.Source.StringLiteral
import Mathlib.Data.List.Forall2

/-!
# Reading back the arguments of attributes

The arguments of an attribute are read from its tokens: they stand between commas, and each is a word that may be
set to a string.  Nothing here depends on how arguments are written, so what an attribute says can be told by what
is read from it.  `arguments?_serdeAttribute` says that all arguments of serialization are read back as they were
meant.
-/

namespace CustomResource

open Source

/-! ## Reading -/

namespace Source

/-- An argument of an attribute: a word, and the text that it is set to, if any. -/
structure Argument where
  word : String
  value? : Option String
  deriving DecidableEq, Repr

/-- Whether a token separates arguments. -/
def Token.isComma : Token → Bool
  | .punct ',' _ => true
  | _ => false

/-- Read an argument. -/
def argument? : List Token → Option Argument
  | [.word word] => some ⟨word, none⟩
  | [.word word, .punct '=' _, .literal text] => (stringValue? text).map fun value => ⟨word, some value⟩
  | _ => none

/-- Read the arguments in the parentheses of an attribute with the given name. -/
def Attribute.arguments? (name : String) (attr : Attribute) : Option (List Argument) :=
  match attr.input with
  | .list .parenthesis tokens =>
      if attr.path = ⟨false, [name]⟩ then (tokens.splitOnP Token.isComma).mapM argument? else none
  | _ => none

/-- What the first attribute of serialization says. -/
def serialization? (attributes : List Attribute) : Option (List Argument) :=
  attributes.findSome? (·.arguments? "serde")

/-- The line of documentation that an attribute is. -/
def Attribute.docText? (attr : Attribute) : Option String :=
  attr.stringValue? "doc"

@[simp] theorem Attribute.docText?_doc (text : String) : (Attribute.doc text).docText? = some text := by
  rw [docText?, stringValue?, doc]
  exact (if_pos rfl).trans (stringValue?_literal text)

theorem Attribute.map_docText?_doc (texts : List String) :
    (texts.map Attribute.doc).map (·.docText?) = texts.map some := by
  simp [Function.comp_def]

/-- Documentation says nothing of serialization. -/
theorem serialization?_eq {serde : Attribute} {arguments : List Argument}
    (h : serde.arguments? "serde" = some arguments) (docs : List String) (rest : List Attribute) :
    serialization? (docs.map .doc ++ [serde] ++ rest) = some arguments := by
  induction docs with
  | nil => simp [serialization?, h]
  | cons doc docs ih => exact ih

end Source

/-! ## What is written -/

/-- The tokens are an argument and nothing else. -/
structure SpellsArgument (tokens : List Token) (argument : Argument) : Prop where
  argument?_eq : argument? tokens = some argument
  isComma_eq_false : ∀ token ∈ tokens, token.isComma = false

theorem spellsArgument_word (word : String) : SpellsArgument [.word word] ⟨word, none⟩ :=
  ⟨rfl, by simp [Token.isComma]⟩

theorem spellsArgument_textArgument (word text : String) :
    SpellsArgument (textArgument word text) ⟨word, some text⟩ :=
  ⟨by simp [textArgument, argument?, Token.sign], by simp [textArgument, Token.isComma, Token.sign]⟩

/-- Arguments between commas are read one by one. -/
theorem mapM_argument?_commaSeparated {written : List (List Token)} {arguments : List Argument}
    (h : List.Forall₂ SpellsArgument written arguments) (hne : written ≠ []) :
    ((commaSeparated written).splitOnP Token.isComma).mapM argument? = some arguments := by
  induction h with
  | nil => exact absurd rfl hne
  | @cons first argument rest others hfirst hrest ih =>
      cases hrest with
      | nil => simp [commaSeparated, List.splitOnP_eq_singleton hfirst.isComma_eq_false, hfirst.argument?_eq]
      | cons hsecond hmore =>
          have hothers := ih nofun
          -- The first comma is the one behind the first argument, as there is none in it.
          rw [commaSeparated, List.append_assoc, List.singleton_append,
            List.splitOnP_append_cons_of_forall_mem hfirst.isComma_eq_false _ rfl, List.mapM_cons,
            hfirst.argument?_eq, hothers]
          · rfl
          · exact nofun

/-- What is written of serialization is read back. -/
theorem arguments?_serdeAttribute {written : List (List Token)} {arguments : List Argument}
    (h : List.Forall₂ SpellsArgument written arguments) (hne : written ≠ []) :
    (serdeAttribute written).arguments? "serde" = some arguments := by
  rw [Attribute.arguments?, serdeAttribute, Attribute.call]
  exact (if_pos rfl).trans (mapM_argument?_commaSeparated h hne)

/-- What a field of a struct says of its serialization: its key, that it has a default, and the test under which
it is skipped, if there is one. -/
theorem MappedField.arguments?_serde (presentation : Presentation) (field : MappedField) :
    (serdeAttribute ([textArgument "rename" field.key, [.word "default"]] ++
      ((field.skipTest? presentation).map skipArgument).toList)).arguments? "serde" =
        some ([⟨"rename", some field.key⟩, ⟨"default", none⟩] ++
          ((field.skipTest? presentation).map fun test => ⟨"skip_serializing_if", some test.text⟩).toList) := by
  refine arguments?_serdeAttribute ?_ (List.cons_ne_nil _ _)
  refine .cons (spellsArgument_textArgument _ _) (.cons (spellsArgument_word _) ?_)
  cases field.skipTest? presentation with
  | none => exact .nil
  | some test => exact .cons (spellsArgument_textArgument _ _) .nil

/-- What a variant says of its serialization: a name. -/
theorem arguments?_rename (name : String) :
    (serdeAttribute [textArgument "rename" name]).arguments? "serde" = some [⟨"rename", some name⟩] :=
  arguments?_serdeAttribute (.cons (spellsArgument_textArgument _ _) .nil) (List.cons_ne_nil _ _)

end CustomResource
