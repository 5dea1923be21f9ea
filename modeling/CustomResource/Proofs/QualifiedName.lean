import CustomResource.Registry.Basic
import Mathlib.Data.List.DropRight

/-!
# References

A reference means the name that is left of it without the dots at its ends.  Referring to a name by its own
text therefore means the name again, and a lookup finds the same type for both.
-/

namespace CustomResource

namespace QualifiedName

theorem text_inj {first second : QualifiedName} : first.text = second.text ↔ first = second :=
  ⟨congrArg QualifiedName.mk, congrArg QualifiedName.text⟩

theorem trimDots_eq_rdropWhile (text : List Char) :
    trimDots text = (text.dropWhile (· == '.')).rdropWhile (· == '.') := rfl

/-- What is trimmed has no dots at its ends any more. -/
theorem trimDots_trimDots (text : List Char) : trimDots (trimDots text) = trimDots text := by
  -- The first character that is left is not a dot, and it stays the first when the end is trimmed.
  have hfront : (trimDots text).dropWhile (· == '.') = trimDots text := by
    rw [List.dropWhile_eq_self_iff]
    intro hlength
    have hkept := List.rdropWhile_prefix (· == '.') (text.dropWhile (· == '.'))
    rw [← trimDots_eq_rdropWhile] at hkept
    have hhead := List.dropWhile_get_zero_not (· == '.') text (hlength.trans_le hkept.length_le)
    rw [hkept.getElem hlength]
    exact hhead
  rw [trimDots_eq_rdropWhile, hfront, trimDots_eq_rdropWhile, List.rdropWhile_idempotent]

theorem toList_ofReference_text (reference : String) :
    (ofReference reference).text.toList = trimDots reference.toList := by
  have hparts : (ofReference reference).text.toList =
      ['.'].intercalate ([[], trimDots reference.toList, []].filter (!·.isEmpty)) :=
    String.toList_ofList
  rw [hparts]
  cases htrimmed : trimDots reference.toList with
  | nil => rfl
  | cons c rest => simp

/-- The text of a name refers to the name. -/
@[simp] theorem ofReference_text (reference : String) :
    ofReference (ofReference reference).text = ofReference reference := by
  rw [← text_inj, ← String.toList_inj, toList_ofReference_text, toList_ofReference_text,
    trimDots_trimDots]

end QualifiedName

namespace TypeTable

@[simp] theorem message?_text_ofReference (types : TypeTable) (reference : String) :
    types.message? (QualifiedName.ofReference reference).text = types.message? reference := by
  rw [message?, QualifiedName.ofReference_text]
  rfl

end TypeTable

end CustomResource
