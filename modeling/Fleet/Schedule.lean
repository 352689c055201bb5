/-! Schedules: the order in which tasks that run side by side come to their ends. -/

namespace Fleet

/-- An order of completion. It looks at the labels of the tasks, tells their positions in the order
in which they end, and loses and repeats none of them. -/
structure Schedule where
  positions : List String → List Nat
  perm : ∀ labels, (positions labels).Perm (List.range labels.length)

namespace Schedule

variable {α : Type}

/-- The tasks in the order in which they end. -/
def arrange (schedule : Schedule) (label : α → String) (tasks : List α) : List α :=
  (schedule.positions (tasks.map label)).filterMap fun position => tasks[position]?

/-- Tasks end in the order in which they were begun. -/
def inOrder : Schedule where
  positions labels := List.range labels.length
  perm _ := .refl _

/-- The tasks with the given labels first, in the order of the labels, then the others. Tasks of
one label keep their order. -/
def labelsFirst (label : α → String) : List String → List α → List α
  | [], tasks => tasks
  | first :: others, tasks =>
    tasks.filter (fun task => label task == first) ++
      labelsFirst label others (tasks.filter fun task => !(label task == first))

/-- Putting labels first loses and repeats no task. -/
theorem labelsFirst_perm (label : α → String) (order : List String) (tasks : List α) :
    (labelsFirst label order tasks).Perm tasks := by
  induction order generalizing tasks with
  | nil => exact .refl _
  | cons first others ih =>
    exact ((ih _).append_left _).trans (List.filter_append_perm _ tasks)

/-- Tasks with the given labels end first, in the order of the labels. The others, and those of one
label, end in the order of the schedule. -/
def preferring (schedule : Schedule) (order : List String) : Schedule where
  positions labels := labelsFirst (labels.getD · "") order (schedule.positions labels)
  perm labels := (labelsFirst_perm _ order _).trans (schedule.perm labels)

/-- Tasks end in the order of the given labels, and those without one of them in the order in
which they were begun. -/
def byLabel (order : List String) : Schedule := inOrder.preferring order

end Schedule

end Fleet
