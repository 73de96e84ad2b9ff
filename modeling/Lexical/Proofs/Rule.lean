import Lexical.Proofs.Recognizer.Reading

/-! Rules on views: whether a rule can start at a view, what it answers there and what it leaves.
For the rule of a recognizer this is what the recognizer makes of the text.
-/

namespace Lexical

-----------------------------------------------------------------------------------------
-- Any rule
-----------------------------------------------------------------------------------------

namespace Rule

/-- Whether the rule can start at the view. -/
def startsAt (rule : Rule) (v : View) : Bool :=
  (rule.canStart.onView v).1

/-- What the rule answers when it consumes at the view. -/
def answerAt (rule : Rule) (v : View) : Except Failure (Option Token) :=
  (rule.consume.onView v).1

/-- The view that the rule leaves when it consumes. -/
def viewAfter (rule : Rule) (v : View) : View :=
  (rule.consume.onView v).2

/-- Asking the rule whether it can start changes nothing that a cursor shows. -/
def OnlyLooks (rule : Rule) : Prop :=
  ∀ c : Cursor, c.Resembles (rule.canStart.run c).2

theorem OnlyLooks.onView_canStart {rule : Rule} (h : rule.OnlyLooks) (v : View)
    : rule.canStart.onView v = (rule.startsAt v, v) := by
  refine Prod.ext rfl ?_
  have hview := (h v.cursor).view
  rw [Scan.view_run, View.view_cursor] at hview
  exact hview

/-- Consuming takes away a prefix of what remains, which moves the place and the count. -/
theorem viewAfter_spec (rule : Rule) (v : View)
    : ∃ taken,
        v.remaining = taken ++ (rule.viewAfter v).remaining
        ∧ (rule.viewAfter v).origin = v.origin.advanceOver taken
        ∧ (rule.viewAfter v).consumed = v.consumed + taken.length := by
  have h := (rule.consume.reaches v.cursor).view
  rw [Scan.view_run, View.view_cursor] at h
  exact h

end Rule

-----------------------------------------------------------------------------------------
-- Rules of recognizers
-----------------------------------------------------------------------------------------

namespace Recognizer

theorem toRule_onlyLooks (recognizer : Recognizer) : recognizer.toRule.OnlyLooks := by
  intro c
  rw [Cursor.resembles_iff_view_eq, Scan.view_run]
  exact congrArg Prod.snd (recognizer.onView_canStart c.view)

@[simp] theorem startsAt_toRule (recognizer : Recognizer) (v : View)
    : recognizer.toRule.startsAt v = recognizer.starts v.remaining :=
  congrArg Prod.fst (recognizer.onView_canStart v)

@[simp] theorem answerAt_toRule (recognizer : Recognizer) (v : View)
    : recognizer.toRule.answerAt v = (recognizer.reading v.origin v.remaining).answer :=
  congrArg Prod.fst (recognizer.onView_consume v)

@[simp] theorem viewAfter_toRule (recognizer : Recognizer) (v : View)
    : recognizer.toRule.viewAfter v
      = v.skip (recognizer.reading v.origin v.remaining).length :=
  congrArg Prod.snd (recognizer.onView_consume v)

end Recognizer

end Lexical
