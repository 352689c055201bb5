import Fleet.Schedule
import Mathlib.Data.List.Basic

/-! Laws of schedules: no task is lost or repeated, and only labels are looked at. -/

namespace Fleet.Schedule

variable {α β : Type}

/-- Reading a list at all of its positions in turn gives the list. -/
theorem filterMap_range (tasks : List α) :
    (List.range tasks.length).filterMap (fun position => tasks[position]?) = tasks := by
  -- The first position reads the first task, and the positions after it read the rest one place earlier.
  induction tasks with
  | nil => rfl
  | cons task rest ih =>
    simp only [List.length_cons, List.range_succ_eq_map, List.filterMap_cons, List.filterMap_map,
      List.getElem?_cons_zero, Function.comp_def, List.getElem?_cons_succ, ih]

/-- Arranging loses and repeats no task. -/
theorem arrange_perm (schedule : Schedule) (label : α → String) (tasks : List α) :
    (schedule.arrange label tasks).Perm tasks := by
  -- Positions in another order read the same tasks in another order.
  have positions := schedule.perm (tasks.map label)
  rw [List.length_map] at positions
  simpa only [arrange, filterMap_range] using positions.filterMap fun position => tasks[position]?

/-- The tasks that are arranged are the tasks there are. -/
@[simp]
theorem mem_arrange (schedule : Schedule) (label : α → String) (tasks : List α) (task : α) :
    task ∈ schedule.arrange label tasks ↔ task ∈ tasks :=
  (schedule.arrange_perm label tasks).mem_iff

/-- Only the labels of tasks are looked at, so tasks may be made into others before or after. -/
theorem arrange_map (schedule : Schedule) (label : β → String) (make : α → β) (tasks : List α) :
    schedule.arrange label (tasks.map make) =
      (schedule.arrange (fun task => label (make task)) tasks).map make := by
  simp only [arrange, List.map_map, List.map_filterMap, List.getElem?_map, Function.comp_def]

end Fleet.Schedule
