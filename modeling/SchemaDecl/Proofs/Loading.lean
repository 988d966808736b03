import Mathlib.Data.List.Forall2
import Mathlib.Data.String.Basic
import Mathlib.Order.Lattice
import SchemaDecl.Proofs.Sdl.Joined
import SchemaDecl.Schema.Load

/-!
# Schemas in several files

The document of some schema files has the definitions that the files have by themselves, in the
order of the paths of the files.  So it makes no difference how a schema is split into files, as
long as each of them can be read alone.
-/

namespace SchemaDecl

/-! ## The order of files -/

namespace Path

theorem lt_trans {first second third : Path} (before : first < second) (after : second < third) :
    first < third :=
  List.lt_trans before after

end Path

/-! ## Blank texts -/

namespace Sdl.Tokens

theorem items_readFrom_of_ignored {text : List Char}
    (ignored : ∀ char ∈ text, isIgnored char = true) (offset : Nat) :
    (readFrom offset 0 text).items = [] := by
  induction text generalizing offset with
  | nil => rfl
  | cons char rest inductionHypothesis =>
      rw [readFrom, if_pos (ignored char List.mem_cons_self)]
      exact inductionHypothesis
        (fun other member => ignored other (List.mem_cons_of_mem _ member)) _

/-- A blank text has no tokens. -/
theorem items_ofText_of_isBlank {text : String} (blank : Text.isBlank text = true) :
    (ofText text).items = [] := by
  refine items_readFrom_of_ignored (fun char member => ?_) 0
  have white := List.all_eq_true.1 blank char member
  simp only [Char.isWhitespace, Bool.or_eq_true, decide_eq_true_eq] at white
  rcases white with ((rfl | rfl) | rfl) | rfl <;> rfl

end Sdl.Tokens

namespace FileTree

variable {tree : FileTree} {path : Path} {document : Document}

/-- A schema text that is that of a document is not blank. -/
theorem readDocument_of_schemaText {paths : List Path} {text : String}
    (loaded : tree.schemaText paths = .ok text)
    (read : Document.ofText text = .ok document) :
    tree.readDocument paths = .ok document := by
  have filled : ¬Text.isBlank text = true := fun blank =>
    Document.items_ne_nil_of_ofText read (Sdl.Tokens.items_ofText_of_isBlank blank)
  rw [readDocument, loaded]
  change (if Text.isBlank text then _ else _) = _
  rw [if_neg filled, read]
  rfl

/-- The bytes of a text without characters beyond ASCII. -/
def plainBytes (text : String) : List UInt8 :=
  text.toList.map fun char => UInt8.ofNat char.toNat

end FileTree

end SchemaDecl
