import TaskOrchestration.Progress

/-!
# The label of a task

A label shows the ends of a name and of a reference: the longest end without `.`, and the longest
end without `-` less its last character (`shortLabel_cuts`). So what stands in front of a separator
never shows.
-/

namespace TaskOrchestration

namespace Text

/-- The longest end of a text in which a separator does not occur. -/
structure LongestWithout (sep : Char) (text segment : List Char) : Prop where
  isEnd : segment <:+ text
  free : sep ∉ segment
  longest : ∀ other, other <:+ text → sep ∉ other → other.length ≤ segment.length

/-- What follows the last separator is the longest end without one. -/
theorem afterLast_longestWithout (sep : Char) (text : List Char) :
    LongestWithout sep text (afterLast sep text) where
  isEnd := by
    unfold afterLast
    rw [← List.reverse_prefix, List.reverse_reverse]
    exact List.takeWhile_prefix _
  free := not_mem_afterLast sep text
  longest := by
    rintro other ⟨front, rfl⟩ free
    rw [afterLast_append_of_notMem free front, List.length_append]
    exact Nat.le_add_left _ _

end Text

/-- The label of a task, for every name and every reference, or in the absence of either: the
longest end of the name without `.`, and in brackets the longest end of the reference without `-`,
less its last character. So neither part holds its separator, and nothing that ends in the separator
changes the label when it is put in front of the name or of the reference. -/
theorem shortLabel_cuts (name href : Option String) :
    (∃ n segment : List Char,
      Text.LongestWithout '.' (name.getD "").toList n ∧
      Text.LongestWithout '-' (href.getD "").toList segment ∧
      shortLabel name href =
        String.ofList n ++ " (ID: " ++ String.ofList segment.dropLast ++ ")" ∧
      '.' ∉ n ∧ '-' ∉ segment.dropLast) ∧
    (∀ front text : String,
      shortLabel (some (front ++ "." ++ text)) href = shortLabel (some text) href) ∧
    ∀ front text : String,
      shortLabel name (some (front ++ "-" ++ text)) = shortLabel name (some text) := by
  have cut (sep : Char) (front text : String) :
      Text.afterLast sep (front ++ String.singleton sep ++ text).toList =
        Text.afterLast sep text.toList := by
    rw [String.toList_append, String.toList_append, List.append_assoc, String.toList_singleton]
    exact Text.afterLast_append sep front.toList text.toList
  refine ⟨?_, fun front text => ?_, fun front text => ?_⟩
  · have ofName := Text.afterLast_longestWithout '.' (name.getD "").toList
    have ofHref := Text.afterLast_longestWithout '-' (href.getD "").toList
    exact ⟨_, _, ofName, ofHref, rfl, ofName.free,
      fun member => ofHref.free (List.dropLast_subset _ member)⟩
  · show shortLabel (some (front ++ String.singleton '.' ++ text)) href = _
    simp only [shortLabel, Option.getD_some, cut]
  · show shortLabel name (some (front ++ String.singleton '-' ++ text)) = _
    simp only [shortLabel, Option.getD_some, cut]

/-- A reference with a separator at its end leaves nothing to show, and a last character outside
ASCII is taken away whole. -/
example : shortLabel (some "a.b.") (some "/tasks/1-") = " (ID: )" ∧
    shortLabel (some "übung") (some "x-1é") = "übung (ID: 1)" := by decide +kernel

end TaskOrchestration
