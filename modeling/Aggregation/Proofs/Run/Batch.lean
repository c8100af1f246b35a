import Aggregation.Proofs.Run.Process
import Aggregation.Run.Library

/-
  What the work on several components does to a store.

  Components at different places do not disturb each other.
  So what holds of the work on one of them holds of a batch,
  however early that stops.

  Key definitions include:
    * `AreSited`
    * `IsPlaceOfAny`
    * `Batch.Repeats`

  Key theorems include:
    * `runBatch_writtenAt`
    * `runBatch_done`
    * `runBatch_again`
-/

------------------------------------------------------------
-- Sites of a Batch
------------------------------------------------------------

namespace Aggregation

open Disk (FileTree Location Store Viewer)

variable {settings : Settings}
variable {viewer : Viewer}
variable {site : Site settings}
variable {sites : List (Site settings)}
variable {store again : Store}

/- The files of two components lie at different places. -/
def Site.IsApart (left right : Site settings) : Prop :=
  ∀ placed ∈ left.placed, ∀ other ∈ right.placed,
    placed.slot.place ≠ other.slot.place

/- A tree with all the directories of some components. -/
structure AreSited
    (viewer : Viewer)
    (sites : List (Site settings))
    (tree : FileTree) :
    Prop where
  inside : ∀ site ∈ sites, site.IsIn viewer tree
  apart : sites.Pairwise Site.IsApart

/- A place that the work on some component can change. -/
def IsPlaceOfAny
    (viewer : Viewer)
    (sites : List (Site settings))
    (location : Location) :
    Prop :=
  ∃ site ∈ sites, IsPlaceOf viewer site.placed location

theorem IsPlaceOfAny.head
    {location : Location}
    (hPlace : IsPlaceOf viewer site.placed location) :
    IsPlaceOfAny viewer (site :: sites) location :=
  ⟨site, List.mem_cons_self, hPlace⟩

theorem IsPlaceOfAny.tail
    {location : Location}
    (hPlace : IsPlaceOfAny viewer sites location) :
    IsPlaceOfAny viewer (site :: sites) location := by
  rcases hPlace with ⟨other, hOther, hHere⟩
  exact ⟨other, List.mem_cons_of_mem site hOther, hHere⟩

theorem AreSited.grows
    {before after : FileTree}
    (hSited : AreSited viewer sites before)
    (hGrows : FileTree.Grows before after) :
    AreSited viewer sites after where
  inside := fun site hSite =>
    (hSited.inside site hSite).grows hGrows
  apart := hSited.apart

theorem AreSited.head
    {tree : FileTree}
    (hSited : AreSited viewer (site :: sites) tree) :
    site.IsIn viewer tree :=
  hSited.inside site List.mem_cons_self

theorem AreSited.tail
    {tree : FileTree}
    (hSited : AreSited viewer (site :: sites) tree) :
    AreSited viewer sites tree where
  inside := fun other hOther =>
    hSited.inside other (List.mem_cons_of_mem site hOther)
  apart := (List.pairwise_cons.mp hSited.apart).2

/- No component after the first writes its files. -/
theorem AreSited.not_isPlaceOfAny
    {tree : FileTree}
    (hSited : AreSited viewer (site :: sites) tree)
    {placed : Placed}
    (hPlaced : placed ∈ site.placed) :
    ¬IsPlaceOfAny viewer sites placed.slot.place := by
  rintro ⟨other, hOther, file, hFile, _, hPlace⟩
  exact (List.pairwise_cons.mp hSited.apart).1 other hOther
    placed hPlaced file hFile hPlace

------------------------------------------------------------
-- Effects
------------------------------------------------------------

/- A batch starts with the work on its first component. -/
theorem runBatch_cons
    (viewer : Viewer)
    (settings : Settings)
    (store : Store)
    (component : Component)
    (rest : List Component) :
    runBatch viewer settings store (component :: rest) =
      let done := process viewer settings component store
      let events := done.2.events settings component
      let later := runBatch viewer settings done.1 rest
      match done.2.result component with
      | .ok result => later.following events [result] []
      | .error (.file error) =>
          if settings.failFast then
            ⟨done.1, events, [], [], some (.file error)⟩
          else
            later.following
              (events ++ [.gaveUp component.directory error])
              [] [(component.directory, error)]
      | .error failure =>
          ⟨done.1, events, [], [], some failure⟩ := by
  -- Unfolding would split the overlapping failure cases.
  have hCons :
      runBatch viewer settings store (component :: rest) =
        _ :=
    rfl
  exact hCons

/- A batch changes nothing but the entries of its files. -/
theorem runBatch_writtenAt
    (hSited : AreSited viewer sites store.tree) :
    store.WrittenAt
      (runBatch viewer settings store
        (sites.map Site.component)).store
      (IsPlaceOfAny viewer sites) := by
  induction sites generalizing store with
  | nil => exact .refl store _
  | cons site sites ih =>
      have hFirst :
          store.WrittenAt
            (process viewer settings site.component store).1
            (IsPlaceOfAny viewer (site :: sites)) :=
        (process_writtenAt hSited.head).mono
          fun _ => IsPlaceOfAny.head
      have hRest :
          (process viewer settings site.component
              store).1.WrittenAt
            (runBatch viewer settings
              (process viewer settings site.component
                store).1 (sites.map Site.component)).store
            (IsPlaceOfAny viewer (site :: sites)) :=
        (ih (hSited.tail.grows hFirst.grows)).mono
          fun _ => IsPlaceOfAny.tail
      rw [List.map_cons, runBatch_cons]
      simp only
      split
      · exact hFirst.trans hRest
      · split
        · exact hFirst
        · exact hFirst.trans hRest
      · exact hFirst

/- What is done is not undone elsewhere. -/
theorem Site.IsDone.writtenAt
    {places : Location → Prop}
    (hDone : site.IsDone viewer store.tree)
    (hWritten : store.WrittenAt again places)
    (hOthers :
      ∀ placed ∈ site.placed, ¬places placed.slot.place) :
    site.IsDone viewer again.tree := by
  intro placed hPlaced
  exact (hDone placed hPlaced).writtenAt hWritten
    (hOthers placed
      (List.mem_cons_of_mem site.marker hPlaced))

/- Work has a result only if it is finished. -/
theorem Outcome.result_eq_ok
    {outcome : Outcome}
    {component : Component}
    {result : Result}
    (hResult : outcome.result component = .ok result) :
    ∃ created paths,
      outcome = .finished created paths := by
  cases outcome with
  | finished created paths => exact ⟨created, paths, rfl⟩
  | unmarked failure => simp [Outcome.result] at hResult
  | unfinished created failure =>
      simp [Outcome.result] at hResult

/-
  A batch without failures finishes its first component and
  goes on without failures.
-/
theorem runBatch_unfailing
    {rest : List Component}
    (hStopped :
      (runBatch viewer settings store
          (component :: rest)).stopped =
        none)
    (hFailures :
      (runBatch viewer settings store
          (component :: rest)).failures =
        []) :
    let done := process viewer settings component store
    let later := runBatch viewer settings done.1 rest
    (∃ created files, done.2 = .finished created files) ∧
      later.stopped = none ∧ later.failures = [] := by
  simp only [runBatch_cons] at hStopped hFailures
  cases hResult :
      (process viewer settings component store).2.result
        component with
  | ok result =>
      simp only [hResult] at hStopped hFailures
      exact ⟨Outcome.result_eq_ok hResult, hStopped,
        (List.append_eq_nil_iff.mp hFailures).2⟩
  | error failure =>
      simp only [hResult] at hStopped hFailures
      cases failure with
      | file error =>
          cases hFast : settings.failFast with
          | true => simp [hFast] at hStopped
          | false =>
              simp [hFast, Batch.following] at hFailures
      | system path fault => simp at hStopped
      | rendering error => simp at hStopped
      | components failures => simp at hStopped

/- A batch without failures leaves all files. -/
theorem runBatch_done
    (hSited : AreSited viewer sites store.tree)
    (hStopped :
      (runBatch viewer settings store
          (sites.map Site.component)).stopped = none)
    (hFailures :
      (runBatch viewer settings store
          (sites.map Site.component)).failures = []) :
    ∀ site ∈ sites,
      site.IsDone viewer
        (runBatch viewer settings store
          (sites.map Site.component)).store.tree := by
  induction sites generalizing store with
  | nil => simp
  | cons site sites ih =>
      have hFirst := process_writtenAt hSited.head
      have hLater := hSited.tail.grows hFirst.grows
      rw [List.map_cons] at hStopped hFailures ⊢
      rcases runBatch_unfailing hStopped hFailures with
        ⟨⟨created, files, hFinished⟩, hLaterStopped,
          hLaterFailures⟩
      rw [runBatch_cons]
      simp only [hFinished, Outcome.result]
      intro other hOther
      rcases List.mem_cons.mp hOther with hSame | hTail
      · rw [hSame]
        exact (process_finished hSited.head
          hFinished).writtenAt
            (runBatch_writtenAt hLater)
            fun placed hPlaced =>
              hSited.not_isPlaceOfAny hPlaced
      · exact ih hLater hLaterStopped hLaterFailures other
          hTail

------------------------------------------------------------
-- Repetition
------------------------------------------------------------

/- Test for the notice that a marker was created. -/
def Event.isMarker : Event → Bool
  | .markerCreated _ => true
  | _ => false

/- Events without the notices of created markers. -/
def withoutMarkers (events : List Event) : List Event :=
  events.filter fun event => !event.isMarker

/- A result of work that found its marker there. -/
def Result.repeated (result : Result) : Result :=
  { result with markerCreated := false }

theorem withoutMarkers_append (first second : List Event) :
    withoutMarkers (first ++ second) =
      withoutMarkers first ++ withoutMarkers second :=
  List.filter_append _ _

/- The events of files name the file of each. -/
theorem mem_writtenEvents
    {strategy : Strategy}
    {paths : List Path}
    {event : Event}
    (hEvent : event ∈ writtenEvents strategy paths) :
    ∃ path,
      event = .composedWritten path ∨
        event = .indexWritten path ∨
          event = .wrapperWritten path := by
  cases strategy with
  | composed =>
      rcases List.mem_map.mp hEvent with ⟨path, _, rfl⟩
      exact ⟨path, .inl rfl⟩
  | barrel =>
      cases paths with
      | nil => simp [writtenEvents] at hEvent
      | cons path paths =>
          rcases List.mem_cons.mp hEvent with rfl | hOther
          · exact ⟨path, .inr (.inl rfl)⟩
          · rcases List.mem_map.mp hOther with
              ⟨other, _, rfl⟩
            exact ⟨other, .inr (.inr rfl)⟩

theorem withoutMarkers_writtenEvents
    (strategy : Strategy)
    (paths : List Path) :
    withoutMarkers (writtenEvents strategy paths) =
      writtenEvents strategy paths := by
  unfold withoutMarkers
  rw [List.filter_eq_self]
  intro event hEvent
  rcases mem_writtenEvents hEvent with
    ⟨path, rfl | rfl | rfl⟩
  · rfl
  · rfl
  · rfl

theorem withoutMarkers_openingEvents
    (settings : Settings)
    (component : Component)
    (created : Bool) :
    withoutMarkers
        (openingEvents settings component created) =
      openingEvents settings component false := by
  cases created with
  | true => rfl
  | false => rfl

/- Repeated work is told without its marker. -/
theorem events_repeated
    (settings : Settings)
    (component : Component)
    (outcome : Outcome) :
    outcome.repeated.events settings component =
      withoutMarkers
        (outcome.events settings component) := by
  cases outcome with
  | finished created paths =>
      simp only [Outcome.repeated, Outcome.events,
        withoutMarkers_append, withoutMarkers_openingEvents,
        withoutMarkers_writtenEvents]
  | unmarked failure => rfl
  | unfinished created failure =>
      simp only [Outcome.repeated, Outcome.events,
        withoutMarkers_openingEvents]

theorem result_repeated
    (component : Component)
    (outcome : Outcome) :
    outcome.repeated.result component =
      (outcome.result component).map Result.repeated := by
  cases outcome with
  | finished created paths => rfl
  | unmarked failure => rfl
  | unfinished created failure => rfl

/-
  A second batch that does what the first one did, except
  that it finds the markers there.
-/
structure Batch.Repeats
    (first second : Batch) :
    Prop where
  events : second.events = withoutMarkers first.events
  results :
    second.results = first.results.map Result.repeated
  failures : second.failures = first.failures
  stopped : second.stopped = first.stopped

/- What comes before two batches may be repeated as well. -/
theorem Batch.Repeats.following
    {first second : Batch}
    (hRepeats : first.Repeats second)
    (events : List Event)
    (results : List Result)
    (failures : List (Path × FileError)) :
    (first.following events results failures).Repeats
      (second.following (withoutMarkers events)
        (results.map Result.repeated) failures) where
  events := by
    simp only [Batch.following, hRepeats.events,
      withoutMarkers_append]
  results := by
    simp only [Batch.following, hRepeats.results,
      List.map_append]
  failures := by
    simp only [Batch.following, hRepeats.failures]
  stopped := hRepeats.stopped

/-
  A batch that is repeated, where all entries are as the
  first one left them, does the same and changes nothing.
-/
theorem runBatch_again
    (hSited : AreSited viewer sites store.tree)
    (hSitedAgain : AreSited viewer sites again.tree)
    (hEntries :
      ∀ site ∈ sites, ∀ placed ∈ site.placed,
        again.tree.node? placed.slot.place =
          (runBatch viewer settings store
            (sites.map Site.component)).store.tree.node?
              placed.slot.place) :
    let first :=
      runBatch viewer settings store
        (sites.map Site.component)
    let second :=
      runBatch viewer settings again
        (sites.map Site.component)
    first.Repeats second ∧
      again.tree.SameNodes second.store.tree ∧
      (settings.skipUnchanged = true →
        second.store.written = again.written) := by
  induction sites generalizing store again with
  | nil =>
      exact ⟨⟨rfl, rfl, rfl, rfl⟩, fun _ => rfl,
        fun _ => rfl⟩
  | cons site sites ih =>
      have hFirst := process_writtenAt hSited.head
      have hSecond := process_writtenAt hSitedAgain.head
      have hLater := hSited.tail.grows hFirst.grows
      have hLaterAgain :=
        hSitedAgain.tail.grows hSecond.grows
      have hRest := runBatch_writtenAt hLater
      simp only [List.map_cons, runBatch_cons]
        at hEntries ⊢
      -- The components after the first leave its files alone.
      have hHere :
          ∀ placed ∈ site.placed,
            again.tree.node? placed.slot.place =
              (process viewer settings site.component
                store).1.tree.node? placed.slot.place := by
        intro placed hPlaced
        have hKept :=
          hRest.node?_eq (hSited.not_isPlaceOfAny hPlaced)
        rw [hEntries site List.mem_cons_self placed hPlaced]
        split
        · exact hKept
        · split
          · rfl
          · exact hKept
        · rfl
      rcases process_again hSited.head hSitedAgain.head hHere
        with ⟨hOutcome, hSame, hSilent⟩
      rw [hOutcome, result_repeated, events_repeated]
      -- The rest of the batch, if the first one came to it.
      have hOn :
          (∀ other ∈ site :: sites,
            ∀ placed ∈ other.placed,
              again.tree.node? placed.slot.place =
                (runBatch viewer settings
                  (process viewer settings site.component
                    store).1
                  (sites.map
                    Site.component)).store.tree.node?
                      placed.slot.place) →
            _ :=
        fun hLeft =>
          ih hLater hLaterAgain fun other hOther placed
              hPlaced =>
            (hSame placed.slot.place).trans
              (hLeft other (List.mem_cons_of_mem site hOther)
                placed hPlaced)
      cases hResult :
          (process viewer settings site.component
            store).2.result site.component with
      | ok result =>
          simp only [hResult] at hEntries
          rcases hOn hEntries with
            ⟨hRepeats, hSameRest, hSilentRest⟩
          refine ⟨hRepeats.following _ [result] [], ?_, ?_⟩
          · intro location
            exact (hSameRest location).trans (hSame location)
          · intro hSkip
            exact (hSilentRest hSkip).trans (hSilent hSkip)
      | error failure =>
          cases failure with
          | system path fault =>
              exact ⟨⟨rfl, rfl, rfl, rfl⟩, hSame, hSilent⟩
          | rendering error =>
              exact ⟨⟨rfl, rfl, rfl, rfl⟩, hSame, hSilent⟩
          | components failures =>
              exact ⟨⟨rfl, rfl, rfl, rfl⟩, hSame, hSilent⟩
          | file error =>
              simp only [Except.map]
              cases hFast : settings.failFast with
              | true =>
                  exact ⟨⟨rfl, rfl, rfl, rfl⟩, hSame, hSilent⟩
              | false =>
                  simp only [hResult, hFast] at hEntries
                  rcases hOn hEntries with
                    ⟨hRepeats, hSameRest, hSilentRest⟩
                  have hFollowing :=
                    hRepeats.following
                      ((process viewer settings
                        site.component store).2.events
                          settings site.component ++
                        [.gaveUp site.component.directory
                          error])
                      []
                      [(site.component.directory, error)]
                  rw [withoutMarkers_append] at hFollowing
                  refine ⟨hFollowing, ?_, ?_⟩
                  · intro location
                    exact (hSameRest location).trans
                      (hSame location)
                  · intro hSkip
                    exact (hSilentRest hSkip).trans
                      (hSilent hSkip)

end Aggregation
