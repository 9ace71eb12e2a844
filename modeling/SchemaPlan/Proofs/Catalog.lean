import SchemaPlan.Proofs.Statement.Subject

/-!
# What tables have under their names

A catalog says what each table of a database has under each name: its indexes, or its foreign
keys.  Statements are read as events that put something under a name or erase it, and replayed
over a catalog in order.

* `Catalog.replay_of_untouched` is the frame: a name that no event touches keeps what it has.
* `Catalog.replay_put` says that the last event of a name decides.
* `Catalog.replay_of_erased` and `Catalog.replay_of_kept` say what a name that nothing is put under
  has in the end.
* `Catalog.replay_thoseAbout` says that for the names of a table its own statements are enough.
-/
namespace SchemaPlan

variable {α : Type}

/-- Something that happens to what a table has under a name. -/
inductive Event (α : Type) where
  | put (table name : String) (thing : α)
  | erase (table name : String)

namespace Event

/-- The table that an event is about. -/
def table : Event α → String
  | put table _ _ => table
  | erase table _ => table

/-- The name that an event is about. -/
def name : Event α → String
  | put _ name _ => name
  | erase _ name => name

/-- What there is after an event of the name. -/
def outcome : Event α → Option α
  | put _ _ thing => some thing
  | erase _ _ => none

end Event

/-- What tables have under their names. -/
def Catalog (α : Type) : Type :=
  String → String → Option α

namespace Catalog

/-- The catalog after an event. -/
def step (c : Catalog α) (e : Event α) : Catalog α :=
  fun table name => if e.table = table ∧ e.name = name then e.outcome else c table name

/-- The catalog after events in order. -/
def replay (c : Catalog α) (events : List (Event α)) : Catalog α :=
  events.foldl step c

variable (c : Catalog α) (events : List (Event α)) {table name : String}

theorem replay_append (others : List (Event α)) :
    c.replay (events ++ others) = (c.replay events).replay others :=
  List.foldl_append

/-- A name that no event touches keeps what it has. -/
theorem replay_of_untouched (h : ∀ e ∈ events, ¬ (e.table = table ∧ e.name = name)) :
    c.replay events table name = c table name := by
  induction events generalizing c with
  | nil => rfl
  | cons e rest ih =>
    have hrest := ih (c.step e) fun e he => h e (List.mem_cons_of_mem _ he)
    rw [show c.replay (e :: rest) = (c.step e).replay rest from rfl, hrest, step,
      if_neg (h e List.mem_cons_self)]

/-- The last event of a name decides what it has. -/
theorem replay_put (pre post : List (Event α)) (a : α)
    (h : ∀ e ∈ post, ¬ (e.table = table ∧ e.name = name)) :
    c.replay (pre ++ .put table name a :: post) table name = some a := by
  rw [replay_append]
  show ((c.replay pre).step (.put table name a)).replay post table name = some a
  rw [replay_of_untouched _ post h, step, if_pos ⟨rfl, rfl⟩]
  rfl

/-- Without a put a name that is erased has nothing in the end. -/
theorem replay_of_erased (h : ∀ a, .put table name a ∉ events)
    (herased : .erase table name ∈ events) : c.replay events table name = none := by
  induction events generalizing c with
  | nil => cases herased
  | cons e rest ih =>
    have hput : ∀ a, .put table name a ∉ rest := fun a ha => h a (List.mem_cons_of_mem _ ha)
    show (c.step e).replay rest table name = none
    -- What is erased last decides.
    by_cases hrest : .erase table name ∈ rest
    · exact ih (c.step e) hput hrest
    · have he : e = .erase table name := by
        rcases List.mem_cons.mp herased with he | he
        · exact he.symm
        · exact absurd he hrest
      have huntouched : ∀ e ∈ rest, ¬ (e.table = table ∧ e.name = name) := by
        rintro e hmem ⟨rfl, rfl⟩
        cases e with
        | put table name a => exact hput a hmem
        | erase table name => exact hrest hmem
      rw [replay_of_untouched _ rest huntouched, he, step, if_pos ⟨rfl, rfl⟩]
      rfl

/-- Without an event of its own a name keeps what it has. -/
theorem replay_of_kept (hput : ∀ a, .put table name a ∉ events)
    (herase : .erase table name ∉ events) : c.replay events table name = c table name := by
  apply replay_of_untouched
  rintro e hmem ⟨rfl, rfl⟩
  cases e with
  | put table name a => exact hput a hmem
  | erase table name => exact herase hmem

/-- Without a put a name keeps what it has or loses it. -/
theorem replay_of_no_put (h : ∀ a, .put table name a ∉ events) :
    c.replay events table name = c table name ∨ c.replay events table name = none := by
  by_cases herased : .erase table name ∈ events
  · exact Or.inr (replay_of_erased c events h herased)
  · exact Or.inl (replay_of_kept c events h herased)

/-- What a name has in the end depends on what it has in the beginning alone. -/
theorem replay_congr {c c' : Catalog α} (h : c table name = c' table name) :
    c.replay events table name = c'.replay events table name := by
  induction events generalizing c c' with
  | nil => exact h
  | cons e rest ih =>
    have hstep : c.step e table name = c'.step e table name := by
      rw [step, step, h]
    exact ih hstep

/-- Of events for things with distinct names those of one thing are enough for its name. -/
theorem replay_flatMap {β : Type} {things : List β} {nameOf : β → String}
    (hnodup : (things.map nameOf).Nodup) {f : β → List (Event α)}
    (hown : ∀ b ∈ things, ∀ e ∈ f b, e.name = nameOf b) {b : β} (hb : b ∈ things) :
    c.replay (things.flatMap f) table (nameOf b) = c.replay (f b) table (nameOf b) := by
  obtain ⟨pre, post, rfl⟩ := List.mem_iff_append.mp hb
  rw [List.map_append, List.map_cons, List.nodup_append, List.nodup_cons] at hnodup
  obtain ⟨-, ⟨hpost, -⟩, hpre⟩ := hnodup
  have hbefore : ∀ e ∈ pre.flatMap f, ¬ (e.table = table ∧ e.name = nameOf b) := by
    rintro e he ⟨-, hname⟩
    obtain ⟨a, ha, he⟩ := List.mem_flatMap.mp he
    rw [hown a (List.mem_append_left _ ha) e he] at hname
    exact hpre _ (List.mem_map_of_mem ha) _ List.mem_cons_self hname
  have hafter : ∀ e ∈ post.flatMap f, ¬ (e.table = table ∧ e.name = nameOf b) := by
    rintro e he ⟨-, hname⟩
    obtain ⟨a, ha, he⟩ := List.mem_flatMap.mp he
    rw [hown a (List.mem_append_right _ (List.mem_cons_of_mem b ha)) e he] at hname
    exact hpost (hname ▸ List.mem_map_of_mem ha)
  rw [List.flatMap_append, List.flatMap_cons, replay_append, replay_append,
    replay_of_untouched _ _ hafter]
  exact replay_congr (f b) (replay_of_untouched c _ hbefore)

/-! ## Statements as events -/

/-- For the names of a table the statements about that table are enough. -/
theorem replay_thoseAbout (event : Statement → Option (Event α))
    (hsubject : ∀ s e, event s = some e → e.table = s.subject) (statements : List Statement) :
    c.replay (statements.filterMap event) table name =
      c.replay ((thoseAbout table statements).filterMap event) table name := by
  -- A statement about another table changes one of the catalogs and not the other one, so the
  -- induction is on catalogs that agree on this name alone.
  have hagree : ∀ (statements : List Statement) (c c' : Catalog α),
      c table name = c' table name →
      c.replay (statements.filterMap event) table name =
        c'.replay ((thoseAbout table statements).filterMap event) table name := by
    intro statements
    induction statements with
    | nil => exact fun _ _ h => h
    | cons s rest ih =>
      intro c c' hsame
      cases hevent : event s with
      | none =>
        rw [List.filterMap_cons_none hevent, thoseAbout, List.filter_cons]
        split_ifs
        · rw [List.filterMap_cons_none hevent]
          exact ih c c' hsame
        · exact ih c c' hsame
      | some e =>
        rw [List.filterMap_cons_some hevent, thoseAbout, List.filter_cons]
        by_cases hs : s.subject = table
        · rw [if_pos (by simp [hs]), List.filterMap_cons_some hevent]
          apply ih (c.step e) (c'.step e)
          rw [step, step, hsame]
        · rw [if_neg (by simp [hs])]
          apply ih (c.step e) c'
          rw [step, if_neg fun h => hs ((hsubject s e hevent).symm.trans h.1), hsame]
  exact hagree statements c c rfl

end Catalog

end SchemaPlan
