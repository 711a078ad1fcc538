/-
Device2/Lib/SlotTrace.lean

The life of a slot that holds at most one resource at a time.  Its trace says when a
resource was put in (`opened`), used, and taken out (`closed`); `Lives a es b` says
that the slot goes from `a` to `b` along the trace `es`, so that nothing is opened into
a full slot and only what is there is used or closed.

Traces are put together with `Lives.append`.  What follows from them is read off a
whole trace: openings and closings alternate (`Lives.count`), and what is used has been
opened before and not been closed since (`Lives.used_open`).
-/
import Mathlib.Data.List.Basic

namespace SlotTrace

variable {α β : Type*}

/-- Something that happens to the resource in the slot. -/
inductive SlotEvent (α β : Type*)
  | opened (x : α)
  | used (x : α) (y : β)
  | closed (x : α)

/-- The slot goes from the first content to the second one. -/
inductive Lives : Option α → List (SlotEvent α β) → Option α → Prop
  | nil (a : Option α) : Lives a [] a
  | opened {x : α} {es : List (SlotEvent α β)} {b : Option α} (h : Lives (some x) es b) :
    Lives none (.opened x :: es) b
  | used {x : α} (y : β) {es : List (SlotEvent α β)} {b : Option α} (h : Lives (some x) es b) :
    Lives (some x) (.used x y :: es) b
  | closed {x : α} {es : List (SlotEvent α β)} {b : Option α} (h : Lives none es b) :
    Lives (some x) (.closed x :: es) b

/-- An opening, or a closing. -/
def SlotEvent.isOpened : SlotEvent α β → Bool
  | opened _ => true
  | _ => false

def SlotEvent.isClosed : SlotEvent α β → Bool
  | closed _ => true
  | _ => false

namespace Lives

variable {a b c : Option α} {es fs : List (SlotEvent α β)}

theorem append (h : Lives a es b) (h' : Lives b fs c) : Lives a (es ++ fs) c := by
  induction h with
  | nil => exact h'
  | opened _ ih => exact .opened (ih h')
  | used y _ ih => exact .used y (ih h')
  | closed _ ih => exact .closed (ih h')

/-- Whatever is there is closed. -/
theorem close (a : Option α) : Lives a (a.toList.map (SlotEvent.closed (β := β))) none := by
  rcases a with - | x
  · exact .nil _
  · exact .closed (.nil _)

/-- **Openings and closings alternate**: they are as many, up to what is in the slot. -/
theorem count (h : Lives a es b) :
    a.toList.length + es.countP SlotEvent.isOpened = es.countP SlotEvent.isClosed + b.toList.length := by
  induction h with
  | nil => simp
  | opened _ ih | used _ _ ih | closed _ ih =>
    simp only [List.countP_cons, SlotEvent.isOpened, SlotEvent.isClosed, Option.toList_some,
      Option.toList_none, List.length_singleton, List.length_nil] at ih ⊢
    simp at ih ⊢
    omega

/-- A trace is cut at any place. -/
theorem of_append (h : Lives a (es ++ fs) c) : ∃ b, Lives a es b ∧ Lives b fs c := by
  induction es generalizing a with
  | nil => exact ⟨a, .nil a, h⟩
  | cons e es ih =>
    cases h with
    | opened h => obtain ⟨b, h₁, h₂⟩ := ih h; exact ⟨b, .opened h₁, h₂⟩
    | used y h => obtain ⟨b, h₁, h₂⟩ := ih h; exact ⟨b, .used y h₁, h₂⟩
    | closed h => obtain ⟨b, h₁, h₂⟩ := ih h; exact ⟨b, .closed h₁, h₂⟩

/-- What is in the slot at the end was there before or has been opened, and not been
closed since. -/
theorem last_open {x : α} (h : Lives a es b) (hb : b = some x) :
    (a = some x ∧ ∀ e ∈ es, e.isClosed = false) ∨
    ∃ pre post, es = pre ++ .opened x :: post ∧ ∀ e ∈ post, e.isClosed = false := by
  induction h with
  | nil => exact .inl ⟨hb, by simp⟩
  | @opened x' es b h ih =>
    rcases ih hb with ⟨hx, hes⟩ | ⟨pre, post, rfl, hpost⟩
    · exact .inr ⟨[], es, by rw [Option.some.inj hx, List.nil_append], hes⟩
    · exact .inr ⟨.opened x' :: pre, post, rfl, hpost⟩
  | @used x' y es b h ih =>
    rcases ih hb with ⟨hx, hes⟩ | ⟨pre, post, rfl, hpost⟩
    · refine .inl ⟨hx, fun e he => ?_⟩
      rcases List.mem_cons.mp he with rfl | he
      · rfl
      · exact hes e he
    · exact .inr ⟨.used x' y :: pre, post, rfl, hpost⟩
  | @closed x' es b h ih =>
    rcases ih hb with ⟨hx, -⟩ | ⟨pre, post, rfl, hpost⟩
    · exact nomatch hx
    · exact .inr ⟨.closed x' :: pre, post, rfl, hpost⟩

/-- **What is used is open**: in a trace from the empty slot it has been opened before,
and not been closed since. -/
theorem used_open {x : α} {y : β} (h : Lives none (es ++ .used x y :: fs) c) :
    ∃ pre post, es = pre ++ .opened x :: post ∧ ∀ e ∈ post, e.isClosed = false := by
  obtain ⟨b, hes, hrest⟩ := h.of_append
  cases hrest with
  | used _ _ =>
    rcases hes.last_open rfl with ⟨hx, -⟩ | hopen
    · cases hx
    · exact hopen

end Lives

end SlotTrace
