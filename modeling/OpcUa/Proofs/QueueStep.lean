import OpcUa.WorkQueue

/-!
# What the operations do to a queue

The pending tasks of a queue and its two flags, after each operation.

* `take_cases`: what the worker finds.
* `turn_run`: a turn that runs a task takes it from the head of an open queue that is not paused.
* `turn_same`: any other turn leaves the tasks alone.
-/

namespace OpcUa.WorkQueue

variable {α : Type} {q q' : WorkQueue α} {a : α}

theorem push_same (place : Place) (a : α) (q : WorkQueue α) :
    (q.push place a).closed = q.closed ∧ (q.push place a).worker = q.worker ∧
      (q.push place a).permit = q.permit := by
  unfold push
  split
  · exact ⟨rfl, rfl, rfl⟩
  · cases place <;> exact ⟨rfl, rfl, rfl⟩

theorem tasks_submitAt (place : Place) (a : α) (q : WorkQueue α) :
    (q.submitAt place a).tasks = (q.push place a).tasks := by
  unfold submitAt
  split
  · rename_i h
    unfold push
    rw [if_pos h]
  · exact tasks_notify _

@[simp] theorem closed_submitAt (place : Place) (a : α) (q : WorkQueue α) :
    (q.submitAt place a).closed = q.closed := by
  unfold submitAt
  split
  · rfl
  · rw [closed_notify]
    unfold push
    split
    · rfl
    · cases place <;> rfl

@[simp] theorem paused_submitAt (place : Place) (a : α) (q : WorkQueue α) :
    (q.submitAt place a).paused = q.paused := by
  unfold submitAt
  split
  · rfl
  · rw [paused_notify]
    unfold push
    split
    · rfl
    · cases place <;> rfl

@[simp] theorem closed_submit (a : α) (q : WorkQueue α) : (q.submit a).closed = q.closed :=
  closed_submitAt ..

@[simp] theorem paused_submit (a : α) (q : WorkQueue α) : (q.submit a).paused = q.paused :=
  paused_submitAt ..

@[simp] theorem closed_submitFirst (a : α) (q : WorkQueue α) :
    (q.submitFirst a).closed = q.closed :=
  closed_submitAt ..

@[simp] theorem paused_submitFirst (a : α) (q : WorkQueue α) :
    (q.submitFirst a).paused = q.paused :=
  paused_submitAt ..

theorem tasks_submit (h : q.closed = false) (a : α) : (q.submit a).tasks = q.tasks ++ [a] := by
  rw [submit, tasks_submitAt, tasks_push_last h]

theorem tasks_submitFirst (h : q.closed = false) (a : α) :
    (q.submitFirst a).tasks = a :: q.tasks := by
  rw [submitFirst, tasks_submitAt, tasks_push_first h]

theorem submit_closed (h : q.closed = true) (a : α) : q.submit a = q := by
  rw [submit, submitAt, if_pos h]

/-- Work that is put on an open queue in turn comes after all that is pending. -/
theorem tasks_foldl_submit (h : q.closed = false) (l : List α) :
    (l.foldl (fun q a => q.submit a) q).tasks = q.tasks ++ l := by
  induction l generalizing q with
  | nil => exact (List.append_nil _).symm
  | cons a l ih =>
    rw [List.foldl_cons, ih (by rw [closed_submit, h]), tasks_submit h, List.append_assoc,
      List.singleton_append]

@[simp] theorem closed_foldl_submit (l : List α) (q : WorkQueue α) :
    (l.foldl (fun q a => q.submit a) q).closed = q.closed := by
  induction l generalizing q with
  | nil => rfl
  | cons a l ih => rw [List.foldl_cons, ih, closed_submit]

@[simp] theorem paused_foldl_submit (l : List α) (q : WorkQueue α) :
    (l.foldl (fun q a => q.submit a) q).paused = q.paused := by
  induction l generalizing q with
  | nil => rfl
  | cons a l ih => rw [List.foldl_cons, ih, paused_submit]

@[simp] theorem tasks_pause (q : WorkQueue α) : q.pause.tasks = q.tasks := rfl

@[simp] theorem closed_pause (q : WorkQueue α) : q.pause.closed = q.closed := rfl

@[simp] theorem paused_pause (q : WorkQueue α) : q.pause.paused = true := rfl

@[simp] theorem tasks_resume (q : WorkQueue α) : q.resume.tasks = q.tasks := tasks_notify _

@[simp] theorem closed_resume (q : WorkQueue α) : q.resume.closed = q.closed := closed_notify _

@[simp] theorem paused_resume (q : WorkQueue α) : q.resume.paused = false := paused_notify _

@[simp] theorem tasks_close (q : WorkQueue α) : q.close.tasks = [] := tasks_notify _

@[simp] theorem closed_close (q : WorkQueue α) : q.close.closed = true := closed_notify _

@[simp] theorem paused_close (q : WorkQueue α) : q.close.paused = q.paused := paused_notify _

/-! ## Turns -/

/-- What the worker finds when it looks for the next task. -/
theorem take_cases (q : WorkQueue α) :
    (∃ a rest, q.closed = false ∧ q.paused = false ∧ q.tasks = a :: rest ∧
      q.take = (.run a, { q with tasks := rest })) ∨
    (q.closed = false ∧ (q.paused = true ∨ q.tasks = []) ∧ q.take = (.idle, q)) ∨
    (q.closed = true ∧ q.take = (.closed, q)) := by
  unfold take
  cases hc : q.closed with
  | true => exact .inr (.inr ⟨rfl, by simp⟩)
  | false =>
    cases hp : q.paused with
    | true => exact .inr (.inl ⟨rfl, .inl rfl, by simp⟩)
    | false =>
      cases ht : q.tasks with
      | nil => exact .inr (.inl ⟨rfl, .inr rfl, by simp⟩)
      | cons a rest => exact .inl ⟨a, rest, rfl, rfl, rfl, by simp⟩

theorem notify_cases (q : WorkQueue α) :
    q.worker = .asleep ∧ q.notify = { q with worker := .awake } ∨
      q.worker ≠ .asleep ∧ q.notify = { q with permit := true } := by
  unfold notify
  cases hw : q.worker with
  | asleep => exact .inl ⟨rfl, rfl⟩
  | awake => exact .inr ⟨nofun, rfl⟩
  | stopped => exact .inr ⟨nofun, rfl⟩

theorem rest_cases (q : WorkQueue α) :
    q.permit = true ∧ q.rest = { q with permit := false, burst := 0 } ∨
      q.permit = false ∧ q.rest = { q with worker := .asleep, burst := 0 } := by
  unfold rest
  cases hp : q.permit with
  | true => exact .inl ⟨rfl, rfl⟩
  | false => exact .inr ⟨rfl, by simp⟩

/-- A turn that runs a task takes it from the head of an open queue that is not paused. -/
theorem turn_run {yields : Bool} (h : q.turn = (.run a yields, q')) :
    q.closed = false ∧ q.paused = false ∧ q'.closed = false ∧ q'.paused = false ∧
      q.tasks = a :: q'.tasks := by
  unfold turn at h
  split at h
  · rename_i b q₁ e
    obtain ⟨hc, hp, rest, ht, rfl⟩ := take_eq_run_iff.1 e
    cases h
    exact ⟨hc, hp, hc, hp, ht⟩
  · split at h <;> cases h
  · cases h

theorem take_snd (h : ∀ a, q.take.1 ≠ .run a) : q.take.2 = q := by
  unfold take at *
  split
  · rfl
  · rename_i hc
    rw [if_neg hc] at h
    split
    · rfl
    · rename_i hp
      rw [if_neg hp] at h
      split
      · rfl
      · rename_i a rest e
        rw [e] at h
        exact absurd rfl (h a)

theorem rest_same (q : WorkQueue α) :
    q.rest.tasks = q.tasks ∧ q.rest.closed = q.closed ∧ q.rest.paused = q.paused := by
  unfold rest
  split <;> exact ⟨rfl, rfl, rfl⟩

/-- Any other turn leaves the tasks and the flags alone. -/
theorem turn_same (h : ∀ a yields, q.turn.1 ≠ .run a yields) :
    q.turn.2.tasks = q.tasks ∧ q.turn.2.closed = q.closed ∧ q.turn.2.paused = q.paused := by
  have ht : q.take.2 = q := by
    refine take_snd fun a ha => ?_
    unfold turn at h
    rcases e : q.take with ⟨x, q₁⟩
    rw [e] at ha h
    dsimp only at ha
    subst ha
    exact h _ _ rfl
  unfold turn at *
  rcases e : q.take with ⟨x, q₁⟩
  rw [e] at ht h
  dsimp only at ht
  subst ht
  cases x with
  | run a => exact absurd rfl (h _ _)
  | idle => exact rest_same q₁
  | closed => exact ⟨rfl, rfl, rfl⟩

theorem length_turn (q : WorkQueue α) : q.turn.2.tasks.length ≤ q.tasks.length := by
  by_cases h : ∃ a yields, q.turn.1 = .run a yields
  · obtain ⟨a, yields, h⟩ := h
    obtain ⟨-, -, -, -, ht⟩ := turn_run (Prod.ext h rfl)
    rw [ht, List.length_cons]
    exact Nat.le_succ _
  · exact Nat.le_of_eq (by rw [(turn_same fun a yields e => h ⟨a, yields, e⟩).1])

theorem turn_flags (q : WorkQueue α) :
    q.turn.2.closed = q.closed ∧ q.turn.2.paused = q.paused := by
  by_cases h : ∃ a yields, q.turn.1 = .run a yields
  · obtain ⟨a, yields, h⟩ := h
    obtain ⟨hc, hp, hc', hp', -⟩ := turn_run (Prod.ext h rfl)
    exact ⟨hc'.trans hc.symm, hp'.trans hp.symm⟩
  · have hs := turn_same fun a yields e => h ⟨a, yields, e⟩
    exact ⟨hs.2.1, hs.2.2⟩

/-- An open queue that is not paused runs the task at its head. -/
theorem turn_of_tasks {rest : List α} (hc : q.closed = false) (hp : q.paused = false)
    (ht : q.tasks = a :: rest) : ∃ yields, q.turn.1 = .run a yields := by
  have h : q.take = (.run a, { q with tasks := rest }) := take_eq_run_iff.2 ⟨hc, hp, rest, ht, rfl⟩
  unfold turn
  rw [h]
  exact ⟨_, rfl⟩

/-! ## The worker -/

/-- The worker stops only when the queue is closed. -/
def Sound (q : WorkQueue α) : Prop := q.worker = .stopped → q.closed = true

theorem Sound.notify (h : q.Sound) : q.notify.Sound := by
  unfold WorkQueue.notify
  split
  · nofun
  · exact h
  · exact h

theorem Sound.submitAt (h : q.Sound) (place : Place) (a : α) : (q.submitAt place a).Sound := by
  unfold WorkQueue.submitAt
  split
  · exact h
  · refine Sound.notify fun hw => ?_
    rename_i hc
    unfold push at hw
    rw [if_neg hc] at hw
    cases place <;> exact absurd (h hw) hc

theorem Sound.resume (h : q.Sound) : q.resume.Sound := Sound.notify (q := q.setPaused false) h

theorem sound_close (q : WorkQueue α) : q.close.Sound := fun _ => closed_close q

theorem Sound.turn (h : q.Sound) : q.turn.2.Sound := by
  unfold WorkQueue.turn
  split
  · rename_i a q₁ e
    obtain ⟨-, -, rest, -, rfl⟩ := take_eq_run_iff.1 e
    exact h
  · rename_i q₁ e
    have hq : q₁ = q := by
      have := take_snd (q := q) fun a ha => by rw [e] at ha; cases ha
      rwa [e] at this
    subst hq
    unfold rest
    split
    · exact h
    · nofun
  · rename_i q₁ e
    unfold take at e
    split at e
    · rename_i hc
      cases e
      exact fun _ => hc
    · split at e
      · cases e
      · split at e <;> cases e

/-- When an open queue goes on, its worker is awake. -/
theorem Sound.worker_resume (h : q.Sound) (hc : q.closed = false) :
    q.resume.worker = .awake := by
  have hs : q.worker ≠ .stopped := fun hw => by
    rw [h hw] at hc
    cases hc
  unfold WorkQueue.resume WorkQueue.notify setPaused
  dsimp only
  split
  · rfl
  · assumption
  · rename_i hw
    exact absurd hw hs

end OpcUa.WorkQueue
