import Aggregation.Proofs.Run.Frame
import Aggregation.Proofs.Run.Locality
import Mathlib.Data.List.Pairwise
import Mathlib.Logic.Relation

/-
  Work on several components, interleaved step by step.

  In a workshop, any component whose work is not ended may
  take the next step.  Components of one scan do not notice
  each other: however their steps are interleaved, each one
  comes as far as it does alone, and the tree is the same.

  Key definitions include:
    * `Workshop`
    * `Workshop.Step`
    * `Workshop.IsOnTrack`
    * `processInTurn`

  Key theorems include:
    * `Workshop.IsOnTrack.step`
    * `Workshop.IsOnTrack.closed`
    * `interleaving_eq_alone`
-/

------------------------------------------------------------
-- Workshops
------------------------------------------------------------

namespace Aggregation

open Disk (FileTree Location Store Viewer)

/- The work on one component, somewhere on its way. -/
structure Task where
  component : Component
  stage : Stage

/- Work on several components over one store. -/
structure Workshop where
  store : Store
  tasks : List Task

namespace Workshop

/- Work that is about to start on all components. -/
def opening
    (store : Store)
    (components : List Component) :
    Workshop :=
  ⟨store, components.map fun component =>
    ⟨component, .checking⟩⟩

/- Some task that is not ended takes its next step. -/
inductive Step
    (viewer : Viewer)
    (settings : Settings) :
    Workshop → Workshop → Prop where
  | advance
      (store : Store)
      (left : List Task)
      (task : Task)
      (right : List Task)
      (hOpen : task.stage.isEnded = false) :
      Step viewer settings
        ⟨store, left ++ task :: right⟩
        ⟨(task.stage.step viewer settings task.component
            store).1,
          left ++
            ⟨task.component,
              (task.stage.step viewer settings
                task.component store).2⟩ :: right⟩

/- Any number of steps, interleaved in any way. -/
abbrev Reaches (viewer : Viewer) (settings : Settings) :
    Workshop → Workshop → Prop :=
  Relation.ReflTransGen (Step viewer settings)

/- All tasks are ended. -/
def IsClosed (workshop : Workshop) : Prop :=
  ∀ task ∈ workshop.tasks, task.stage.isEnded = true

end Workshop

/- A task that ended as its component does alone. -/
def Task.alone
    (viewer : Viewer)
    (settings : Settings)
    (store : Store)
    (component : Component) :
    Task :=
  ⟨component,
    .ended (process viewer settings component store).2⟩

/- Aggregate components in turn, whatever comes of each. -/
def processInTurn
    (viewer : Viewer)
    (settings : Settings) :
    Store → List Component →
      Store × List (Component × Outcome)
  | store, [] => (store, [])
  | store, component :: rest =>
      let done := process viewer settings component store
      let later := processInTurn viewer settings done.1 rest
      (later.1, (component, done.2) :: later.2)

------------------------------------------------------------
-- Work in Turn
------------------------------------------------------------

variable {viewer : Viewer}
variable {settings : Settings}
variable {store initial : Store}

/- A task can be taken to its end before all others. -/
theorem Workshop.reaches_ended
    (left right : List Task)
    (component : Component)
    (store : Store)
    (stage : Stage) :
    Reaches viewer settings
      ⟨store, left ++ ⟨component, stage⟩ :: right⟩
      ⟨(stage.finish viewer settings component store).1,
        left ++
          ⟨component,
            .ended (stage.finish viewer settings component
              store).2⟩ :: right⟩ := by
  induction hCount :
      stage.remaining settings component
      using Nat.strongRecOn generalizing store stage with
  | ind count ih =>
      by_cases hOpen : stage.isEnded = false
      · have hFewer :
            (stage.step viewer settings component
                store).2.remaining settings component <
              stage.remaining settings component :=
          Stage.remaining_step hOpen
        rw [hCount] at hFewer
        rw [Stage.finish_step component store stage]
        exact .head
          (Step.advance store left ⟨component, stage⟩ right
            hOpen)
          (ih _ hFewer _ _ rfl)
      · cases stage with
        | ended outcome => exact .refl
        | checking => exact absurd rfl hOpen
        | marking => exact absurd rfl hOpen
        | writing created done output rest =>
            exact absurd rfl hOpen

/- Work in turn is one way to interleave. -/
theorem Workshop.reaches_inTurn
    (left : List Task)
    (components : List Component)
    (store : Store) :
    let done := processInTurn viewer settings store components
    Reaches viewer settings
      ⟨store, left ++ (opening store components).tasks⟩
      ⟨done.1, left ++ done.2.map fun (component, outcome) =>
        ⟨component, .ended outcome⟩⟩ := by
  induction components generalizing left store with
  | nil => exact .refl
  | cons component rest ih =>
      have hFirst :
          Reaches viewer settings
            ⟨store,
              left ++ (opening store
                (component :: rest)).tasks⟩
            ⟨(process viewer settings component store).1,
              left ++ Task.alone viewer settings store
                component :: (opening store rest).tasks⟩ :=
        reaches_ended left (opening store rest).tasks
          component store .checking
      have hRest :=
        ih (left ++ [Task.alone viewer settings store
            component])
          (process viewer settings component store).1
      simp only [List.append_assoc, List.singleton_append]
        at hRest
      exact hFirst.trans hRest

------------------------------------------------------------
-- Sites of a Workshop
------------------------------------------------------------

variable {site other : Site settings}
variable {sites : List (Site settings)}

/- Files of sites that are apart are so both ways. -/
instance : Std.Symm (@Site.IsApart settings) where
  symm := fun _ _ hApart placed hPlaced file hFile hSame =>
    hApart file hFile placed hPlaced hSame.symm

/- One component has one place for its aggregation file. -/
theorem Site.place_aggregation_eq
    {tree : FileTree}
    (hSite : site.IsIn viewer tree)
    (hOther : other.IsIn viewer tree)
    (hSame : site.component = other.component) :
    site.aggregation.place = other.aggregation.place := by
  have hHere := hSite.aggregation
  have hThere := hOther.aggregation
  unfold Disk.Slot.IsIn at hHere hThere
  simp only [Site.aggregation, hSame] at hHere hThere
  rw [hHere] at hThere
  injection hThere with hThere
  injection hThere with hLocation _
  simp only [Disk.Slot.place, Site.aggregation, hLocation]

/- A component has only one site. -/
theorem AreSited.eq_of_component
    {tree : FileTree}
    (hSited : AreSited viewer sites tree)
    (hSite : site ∈ sites)
    (hOther : other ∈ sites)
    (hSame : site.component = other.component) :
    site = other := by
  refine Classical.byContradiction fun hNe => ?_
  have hApart := hSited.apart.forall hSite hOther hNe
  exact hApart site.marker List.mem_cons_self other.marker
    List.mem_cons_self
    (Site.place_aggregation_eq (hSited.inside site hSite)
      (hSited.inside other hOther) hSame)

/- Different components write different files. -/
theorem AreSited.isApart
    {tree : FileTree}
    (hSited : AreSited viewer sites tree)
    (hSite : site ∈ sites)
    (hOther : other ∈ sites)
    (hNe : site.component ≠ other.component) :
    site.IsApart other :=
  hSited.apart.forall hSite hOther
    fun hSame => hNe (congrArg Site.component hSame)

/- No component occurs twice. -/
theorem AreSited.nodup_components
    {tree : FileTree}
    (hSited : AreSited viewer sites tree) :
    (sites.map Site.component).Nodup := by
  refine List.pairwise_map.mpr
    (hSited.apart.imp_of_mem ?_)
  intro left right hLeft hRight hApart hSame
  exact hApart left.marker List.mem_cons_self right.marker
    List.mem_cons_self
    (Site.place_aggregation_eq (hSited.inside left hLeft)
      (hSited.inside right hRight) hSame)

------------------------------------------------------------
-- Tasks on Track
------------------------------------------------------------

/-
  A task that will come as far as its component does alone
  on some initial store, with the same entries of its files.
-/
structure Task.IsOnTrack
    (viewer : Viewer)
    (initial : Store)
    (site : Site settings)
    (store : Store)
    (task : Task) :
    Prop where
  component : site.component = task.component
  stage : task.stage.IsOf site
  outcome :
    (task.stage.finish viewer settings site.component
        store).2 =
      (process viewer settings site.component initial).2
  entries :
    AgreeAt site.placed
      (process viewer settings site.component
        initial).1.tree
      (task.stage.finish viewer settings site.component
        store).1.tree

/- A workshop in which all tasks are on track. -/
structure Workshop.IsOnTrack
    (viewer : Viewer)
    (initial : Store)
    (sites : List (Site settings))
    (order : List Component)
    (workshop : Workshop) :
    Prop where
  components : workshop.tasks.map Task.component = order
  written :
    initial.WrittenAt workshop.store
      (IsPlaceOfAny viewer sites)
  tasks :
    ∀ task ∈ workshop.tasks, ∃ site ∈ sites,
      task.IsOnTrack viewer initial site workshop.store

/- A task is on track after its own step. -/
theorem Task.IsOnTrack.step
    {task : Task}
    (hTask : task.IsOnTrack viewer initial site store) :
    Task.IsOnTrack viewer initial site
      (task.stage.step viewer settings task.component
        store).1
      ⟨task.component,
        (task.stage.step viewer settings task.component
          store).2⟩ := by
  have hOutcome := hTask.outcome
  have hEntries := hTask.entries
  rw [Stage.finish_step site.component store task.stage]
    at hOutcome hEntries
  rw [← hTask.component]
  exact ⟨rfl, Stage.step_isOf hTask.stage, hOutcome,
    hEntries⟩

/- A task is on track after the step of another one. -/
theorem Task.IsOnTrack.elsewhere
    {task : Task}
    {after : Store}
    (hTask : task.IsOnTrack viewer initial site store)
    (hSite : site.IsIn viewer store.tree)
    (hWritten :
      store.WrittenAt after
        (IsPlaceOf viewer other.placed))
    (hApart : site.IsApart other) :
    task.IsOnTrack viewer initial site after := by
  have hAgree :
      AgreeAt site.placed store.tree after.tree := by
    intro placed hPlaced
    apply hWritten.node?_eq
    rintro ⟨file, hFile, _, hPlace⟩
    exact hApart placed hPlaced file hFile hPlace
  rcases Stage.finish_agreeAt hSite
      (hSite.grows hWritten.grows) hAgree hTask.stage with
    ⟨hOutcome, hEntries⟩
  refine ⟨hTask.component, hTask.stage,
    hOutcome.trans hTask.outcome, ?_⟩
  intro placed hPlaced
  exact (hEntries placed hPlaced).trans
    (hTask.entries placed hPlaced)

namespace Workshop

variable {order : List Component}
variable {workshop after : Workshop}

/- All tasks start on track. -/
theorem isOnTrack_opening
    (hOrder :
      ∀ component ∈ order,
        component ∈ sites.map Site.component) :
    (opening initial order).IsOnTrack viewer initial sites
      order where
  components := by
    simp only [opening, List.map_map]
    exact List.map_id order
  written := .refl initial _
  tasks := by
    intro task hTask
    rcases List.mem_map.mp hTask with
      ⟨component, hComponent, rfl⟩
    rcases List.mem_map.mp (hOrder component hComponent)
      with ⟨site, hSite, rfl⟩
    exact ⟨site, hSite, rfl, trivial, rfl, fun _ _ => rfl⟩

/- No other task works on the component of a task. -/
theorem IsOnTrack.component_ne
    {left right : List Task}
    {task other : Task}
    (hDistinct : order.Nodup)
    (hTrack :
      IsOnTrack viewer initial sites order
        ⟨store, left ++ task :: right⟩)
    (hOther : other ∈ left ++ right) :
    other.component ≠ task.component := by
  have hNodup := hDistinct
  rw [← hTrack.components] at hNodup
  simp only [List.map_append, List.map_cons] at hNodup
  have hApart :=
    List.nodup_cons.mp (List.perm_middle.nodup_iff.mp hNodup)
  rw [← List.map_append] at hApart
  intro hSame
  exact hApart.1 (hSame ▸ List.mem_map_of_mem hOther)

/- All tasks stay on track, whichever takes a step. -/
theorem IsOnTrack.step
    (hSited : AreSited viewer sites initial.tree)
    (hDistinct : order.Nodup)
    (hTrack :
      workshop.IsOnTrack viewer initial sites order)
    (hStep : Step viewer settings workshop after) :
    after.IsOnTrack viewer initial sites order := by
  cases hStep with
  | advance store left task right hOpen =>
      have hNow := hSited.grows hTrack.written.grows
      have hHere : task ∈ left ++ task :: right :=
        List.mem_append_right left List.mem_cons_self
      rcases hTrack.tasks task hHere with
        ⟨site, hSite, hTask⟩
      have hWritten :
          store.WrittenAt
            (task.stage.step viewer settings task.component
              store).1
            (IsPlaceOf viewer site.placed) := by
        rw [← hTask.component]
        exact Stage.step_writtenAt (hNow.inside site hSite)
          hTask.stage
      refine ⟨?_, ?_, ?_⟩
      · rw [← hTrack.components]
        simp only [List.map_append, List.map_cons]
      · exact hTrack.written.trans
          (hWritten.mono fun _ hPlace =>
            ⟨site, hSite, hPlace⟩)
      · intro one hOne
        by_cases hOther : one ∈ left ++ right
        · -- The step was elsewhere for this task.
          have hBefore : one ∈ left ++ task :: right :=
            List.perm_middle.mem_iff.mpr
              (List.mem_cons_of_mem task hOther)
          rcases hTrack.tasks one hBefore with
            ⟨other, hOtherSite, hOne⟩
          refine ⟨other, hOtherSite, ?_⟩
          apply hOne.elsewhere
            (hNow.inside other hOtherSite) hWritten
          apply hNow.isApart hOtherSite hSite
          rw [hOne.component, hTask.component]
          exact hTrack.component_ne hDistinct hOther
        · rcases List.mem_cons.mp
              (List.perm_middle.mem_iff.mp hOne) with
            rfl | hElse
          · exact ⟨site, hSite, hTask.step⟩
          · exact absurd hElse hOther

/- However many steps are taken, all tasks are on track. -/
theorem IsOnTrack.reaches
    (hSited : AreSited viewer sites initial.tree)
    (hDistinct : order.Nodup)
    (hTrack :
      workshop.IsOnTrack viewer initial sites order)
    (hReaches : Reaches viewer settings workshop after) :
    after.IsOnTrack viewer initial sites order := by
  induction hReaches with
  | refl => exact hTrack
  | tail _ hStep ih => exact ih.step hSited hDistinct hStep

/- A task on track that is ended is as it is alone. -/
theorem eq_alone_of_isOnTrack
    {task : Task}
    (hTask : task.IsOnTrack viewer initial site store)
    (hEnded : task.stage.isEnded = true) :
    task =
        Task.alone viewer settings initial task.component ∧
      AgreeAt site.placed
        (process viewer settings site.component
          initial).1.tree
        store.tree := by
  rcases task with ⟨component, stage⟩
  have hOutcome := hTask.outcome
  have hEntries := hTask.entries
  cases stage with
  | checking => contradiction
  | marking => contradiction
  | writing created done output left => contradiction
  | ended outcome =>
      rw [hTask.component] at hOutcome
      refine ⟨?_, hEntries⟩
      unfold Task.alone
      rw [← hOutcome]
      rfl

/- At the end, every task is as it is alone. -/
theorem IsOnTrack.tasks_eq
    (hTrack :
      workshop.IsOnTrack viewer initial sites order)
    (hClosed : workshop.IsClosed) :
    workshop.tasks =
      order.map (Task.alone viewer settings initial) := by
  rw [← hTrack.components, List.map_map]
  refine (List.map_id workshop.tasks).symm.trans
    (List.map_congr_left ?_)
  intro task hTask
  rcases hTrack.tasks task hTask with ⟨site, _, hOnTrack⟩
  exact (eq_alone_of_isOnTrack hOnTrack
    (hClosed task hTask)).1

/- Every file ends as its component leaves it alone. -/
theorem IsOnTrack.agreeAt
    (hSited : AreSited viewer sites initial.tree)
    (hTrack :
      workshop.IsOnTrack viewer initial sites order)
    (hClosed : workshop.IsClosed)
    (hSite : site ∈ sites)
    (hOrder : site.component ∈ order) :
    AgreeAt site.placed
      (process viewer settings site.component
        initial).1.tree
      workshop.store.tree := by
  rw [← hTrack.components] at hOrder
  rcases List.mem_map.mp hOrder with
    ⟨task, hTask, hComponent⟩
  rcases hTrack.tasks task hTask with
    ⟨other, hOther, hOnTrack⟩
  have hSame : site = other :=
    hSited.eq_of_component hSite hOther
      (hComponent.symm.trans hOnTrack.component.symm)
  rw [hSame]
  exact (eq_alone_of_isOnTrack hOnTrack
    (hClosed task hTask)).2

/- All ends of work on the same components are alike. -/
theorem IsOnTrack.sameNodes
    {others : List Component}
    {closed : Workshop}
    (hSited : AreSited viewer sites initial.tree)
    (hAll :
      ∀ site ∈ sites,
        site.component ∈ order ∧ site.component ∈ others)
    (hTrack :
      workshop.IsOnTrack viewer initial sites order)
    (hClosed : workshop.IsClosed)
    (hOtherTrack :
      closed.IsOnTrack viewer initial sites others)
    (hOtherClosed : closed.IsClosed) :
    workshop.store.tree.SameNodes closed.store.tree := by
  intro location
  by_cases hPlace : IsPlaceOfAny viewer sites location
  · rcases hPlace with
      ⟨site, hSite, placed, hPlaced, _, rfl⟩
    have hFirst :=
      hTrack.agreeAt hSited hClosed hSite
        (hAll site hSite).1
    have hSecond :=
      hOtherTrack.agreeAt hSited hOtherClosed hSite
        (hAll site hSite).2
    rw [hFirst placed hPlaced, hSecond placed hPlaced]
  · rw [hTrack.written.node?_eq hPlace,
      hOtherTrack.written.node?_eq hPlace]

end Workshop

------------------------------------------------------------
-- Interleavings
------------------------------------------------------------

/- The workshop that work in turn leaves. -/
def Workshop.afterTurns
    (done : Store × List (Component × Outcome)) :
    Workshop :=
  ⟨done.1, done.2.map fun (component, outcome) =>
    ⟨component, .ended outcome⟩⟩

theorem Workshop.isClosed_afterTurns
    (done : Store × List (Component × Outcome)) :
    (afterTurns done).IsClosed := by
  intro task hTask
  rcases List.mem_map.mp hTask with ⟨entry, _, rfl⟩
  rfl

/- Outcomes are told from the tasks that ended with them. -/
theorem outcomes_eq_of_tasks
    {done : Store × List (Component × Outcome)}
    {order : List Component}
    (hTasks :
      (Workshop.afterTurns done).tasks =
        order.map (Task.alone viewer settings initial)) :
    done.2 =
      order.map fun component =>
        (component,
          (process viewer settings component initial).2) := by
  have hInjective :
      Function.Injective
        fun (entry : Component × Outcome) =>
          (⟨entry.1, .ended entry.2⟩ : Task) := by
    rintro ⟨component, outcome⟩ ⟨other, result⟩ hSame
    injection hSame with hComponent hStage
    injection hStage with hOutcome
    exact Prod.ext hComponent hOutcome
  apply hInjective.list_map
  rw [List.map_map]
  exact hTasks

/-
  The components of one scan are independent.  However their
  steps are interleaved, the tree ends as after work in turn
  in the order of the scan, and each component has the
  outcome that it has alone.  Work in turn is the same in
  every order.
-/
theorem interleaving_eq_alone
    (viewer : Viewer)
    (settings : Settings)
    (library : Path)
    (store : Store)
    (components order : List Component)
    (hFree : store.tree.IsLinkFree)
    (hPlain : settings.HasPlainNames)
    (hScan :
      scan store.tree viewer settings library =
        .ok components)
    (hOrder : order.Perm components) :
    let inTurn := processInTurn viewer settings store
    (∀ closed : Workshop,
        Workshop.Reaches viewer settings
            (.opening store order) closed →
          closed.IsClosed →
            (inTurn components).1.tree.SameNodes
                closed.store.tree ∧
              closed.tasks =
                order.map
                  (Task.alone viewer settings store)) ∧
      (inTurn components).1.tree.SameNodes
          (inTurn order).1.tree ∧
      (inTurn order).2 =
        order.map fun component =>
          (component,
            (process viewer settings component store).2) := by
  intro inTurn
  rcases scan_sites hFree hPlain hScan with
    ⟨home, _, sites, _, hSurvey⟩
  have hSited := hSurvey.sited
  have hDistinct := hSited.nodup_components
  rw [hSurvey.components] at hDistinct
  have hAll :
      ∀ site ∈ sites,
        site.component ∈ components ∧
          site.component ∈ order := by
    intro site hSite
    have hMem : site.component ∈ components :=
      hSurvey.components ▸ List.mem_map_of_mem hSite
    exact ⟨hMem, hOrder.mem_iff.mpr hMem⟩
  -- Every way through the components keeps them on track.
  have hTrack :
      ∀ others : List Component, others.Perm components →
        ∀ workshop,
          Workshop.Reaches viewer settings
              (.opening store others) workshop →
            workshop.IsOnTrack viewer store sites others := by
    intro others hPerm workshop hReaches
    refine (Workshop.isOnTrack_opening ?_).reaches hSited
      (hPerm.nodup_iff.mpr hDistinct) hReaches
    intro component hComponent
    rw [hSurvey.components]
    exact hPerm.mem_iff.mp hComponent
  have hInTurn :
      ∀ others : List Component, others.Perm components →
        (Workshop.afterTurns (inTurn others)).IsOnTrack
          viewer store sites others :=
    fun others hPerm =>
      hTrack others hPerm _
        (Workshop.reaches_inTurn [] others store)
  have hClosedTurns :=
    Workshop.isClosed_afterTurns (inTurn components)
  have hSame :
      ∀ closed : Workshop,
        closed.IsOnTrack viewer store sites order →
          closed.IsClosed →
            (inTurn components).1.tree.SameNodes
              closed.store.tree :=
    fun closed hOnTrack hClosed =>
      (hInTurn components (.refl components)).sameNodes
        hSited hAll hClosedTurns hOnTrack hClosed
  refine ⟨?_, ?_, ?_⟩
  · intro closed hReaches hClosed
    have hOnTrack := hTrack order hOrder closed hReaches
    exact ⟨hSame closed hOnTrack hClosed,
      hOnTrack.tasks_eq hClosed⟩
  · exact hSame _ (hInTurn order hOrder)
      (Workshop.isClosed_afterTurns _)
  · exact outcomes_eq_of_tasks
      ((hInTurn order hOrder).tasks_eq
        (Workshop.isClosed_afterTurns _))

theorem interleaving_eq_alone_sampleStore :
    let inTurn :=
      processInTurn sampleViewer sampleSettings sampleStore
    sampleStore.tree.IsLinkFree ∧
      sampleSettings.HasPlainNames ∧
      scan sampleStore.tree sampleViewer sampleSettings
          sampleSettings.componentsDirectory =
        .ok sampleComponents ∧
      sampleComponents.reverse.Perm sampleComponents ∧
      (∀ closed : Workshop,
        Workshop.Reaches sampleViewer sampleSettings
            (.opening sampleStore sampleComponents.reverse)
            closed →
          closed.IsClosed →
            (inTurn sampleComponents).1.tree.SameNodes
                closed.store.tree ∧
              closed.tasks =
                sampleComponents.reverse.map
                  (Task.alone sampleViewer sampleSettings
                    sampleStore)) ∧
      (inTurn sampleComponents).1.tree.SameNodes
          (inTurn sampleComponents.reverse).1.tree ∧
      (inTurn sampleComponents.reverse).2 =
        sampleComponents.reverse.map fun component =>
          (component,
            (process sampleViewer sampleSettings component
              sampleStore).2) :=
  have hScan :
      scan sampleStore.tree sampleViewer sampleSettings
          sampleSettings.componentsDirectory =
        .ok sampleComponents := by
    decide +kernel
  ⟨sampleTree_isLinkFree, sampleSettings_hasPlainNames,
    hScan, List.reverse_perm sampleComponents,
    interleaving_eq_alone sampleViewer sampleSettings
      sampleSettings.componentsDirectory sampleStore
      sampleComponents sampleComponents.reverse
      sampleTree_isLinkFree sampleSettings_hasPlainNames
      hScan (List.reverse_perm sampleComponents)⟩

end Aggregation
