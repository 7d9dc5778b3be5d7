import SignatureSearch.Proofs.Session.Loads

/-!
# Pages of a session

Whatever a session is asked to do, its catalogue holds the packages that it was told were taken in.
So a page mentions only entries that are there, every entry has the page of its module beside it,
and a module that was left out has left nothing.
-/

namespace SignatureSearch
namespace Session

open Catalog (Batch Delivery Entry Holds Page)

/-! ## What a session has taken in -/

/-- The package that was loaded, if that is what was asked for and the answer. -/
def taken? : Operation × Answer → Option Delivery
  | (.load package modules, .loaded (.ok _)) => some { package, modules }
  | _ => none

theorem taken?_eq_some {asked : Operation × Answer} {delivery : Delivery}
    (taken : taken? asked = some delivery) :
    ∃ report, asked = (.load delivery.package delivery.modules, .loaded (.ok report)) := by
  unfold taken? at taken
  split at taken
  · cases taken
    exact ⟨_, rfl⟩
  · cases taken

theorem Agree.holds {session other : Session} (agree : Agree session other)
    {deliveries : List Delivery} (holds : Holds deliveries session.catalog) :
    Holds deliveries other.catalog :=
  ⟨agree.entries ▸ holds.entries, agree.shelves ▸ holds.shelves⟩

theorem perform_load (session : Session) (package : String) (modules : List Docs.ModuleDocs) :
    session.perform (.load package modules) =
      (.loaded (session.load package modules).1, (session.load package modules).2) :=
  rfl

theorem performAll_cons (session : Session) (operation : Operation)
    (operations : List Operation) :
    session.performAll (operation :: operations) =
      ((session.perform operation).1 :: ((session.perform operation).2.performAll operations).1,
        ((session.perform operation).2.performAll operations).2) :=
  rfl

/-- Whatever a session does, its catalogue goes on to hold what it held, and after it the package
that was taken in. -/
theorem holds_perform {session : Session} {deliveries : List Delivery}
    (faithful : session.Faithful) (holds : Holds deliveries session.catalog)
    (operation : Operation) :
    (session.perform operation).2.Faithful ∧
      Holds (deliveries ++ (taken? (operation, (session.perform operation).1)).toList)
        (session.perform operation).2.catalog := by
  have unchanged {before after : Session} (agree : Agree before after)
      (holds : Holds deliveries before.catalog) :
      after.Faithful ∧ Holds (deliveries ++ []) after.catalog := by
    rw [List.append_nil]
    exact ⟨agree.otherFaithful, agree.holds holds⟩
  cases operation with
  | load package modules =>
      have step := session.holds_load holds ⟨package, modules⟩
      have keeps := faithful_load faithful ⟨package, modules⟩
      rw [perform_load]
      dsimp only at step keeps
      generalize session.load package modules = loaded at step keeps
      obtain ⟨result, after⟩ := loaded
      rcases step with ⟨-, rfl, kept⟩ | ⟨-, rfl, grown⟩
      · exact ⟨keeps, (List.append_nil deliveries).symm ▸ kept⟩
      · exact ⟨keeps, grown⟩
  | search limit query => exact unchanged (agree_search faithful limit query) holds
  | searchLatest limit queries =>
      exact unchanged (agree_searchLatest faithful limit queries) holds
  | rank includeTypes limit query =>
      exact unchanged (agree_rank faithful includeTypes limit query) holds
  | warm => exact unchanged (agree_warm faithful) holds
  | inspect => exact unchanged (agree_inspect faithful) holds
  | size => exact unchanged (.refl faithful) holds
  | packages => exact unchanged (.refl faithful) holds
  | names package => exact unchanged (.refl faithful) holds
  | link package name => exact unchanged (.refl faithful) holds
  | pages package => exact unchanged (.refl faithful) holds
  | cached => exact unchanged (.refl faithful) holds
  | tally => exact unchanged (.refl faithful) holds

/-- After any run the catalogue holds the packages that were taken in. -/
theorem holds_performAll {session : Session} {deliveries : List Delivery}
    (faithful : session.Faithful) (holds : Holds deliveries session.catalog)
    (operations : List Operation) :
    Holds (deliveries ++
        (operations.zip (session.performAll operations).1).filterMap taken?)
      (session.performAll operations).2.catalog := by
  induction operations generalizing session deliveries with
  | nil =>
      rw [List.zip_nil_left, List.filterMap_nil, List.append_nil]
      exact holds
  | cons operation operations ih =>
      obtain ⟨later, grown⟩ := holds_perform faithful holds operation
      have rest := ih later grown
      rw [performAll_cons, List.zip_cons_cons, ← List.singleton_append, List.filterMap_append]
      rw [List.append_assoc] at rest
      exact rest

/-- A package that was taken in was reported as it lies in the catalogue. -/
theorem report_of_mem_performAll {session : Session} {operations : List Operation}
    {package : String} {modules : List Docs.ModuleDocs} {report : LoadReport}
    (told : (Operation.load package modules, Answer.loaded (.ok report)) ∈
      operations.zip (session.performAll operations).1) :
    report = .ofBatch (Batch.ofModules package modules) := by
  induction operations generalizing session with
  | nil => cases told
  | cons operation operations ih =>
      rw [performAll_cons, List.zip_cons_cons, List.mem_cons] at told
      rcases told with here | later
      · obtain ⟨rfl, answered⟩ := Prod.mk.inj here
        rw [perform_load, Answer.loaded.injEq] at answered
        rcases session.load_cases ⟨package, modules⟩ with ⟨-, refused, -⟩ | ⟨-, -, accepted, -⟩
        · cases answered.trans refused
        · exact Except.ok.inj (answered.trans accepted)
      · exact ih later

/-- **The pages of a session after any run.**  What a page mentions is an entry of its module and
leads somewhere; every entry comes from a module that was taken in, whose page is there; and the
modules that are reported as left out have left neither pages nor entries. -/
theorem pages_performAll (settings : Settings) (operations : List Operation) :
    let answers := ((start settings).performAll operations).1
    let catalog := ((start settings).performAll operations).2.catalog
    (∀ package, ∀ page ∈ catalog.pages package, ∀ name home,
      Docs.Chunk.entry name home ∈ page.chunks →
        home = package ∧
        (∃ entry ∈ catalog.entries,
          entry.package = package ∧ entry.module = page.module ∧ entry.name = name) ∧
        catalog.linkTarget? package name ≠ none) ∧
    (∀ entry ∈ catalog.entries, ∃ modules report,
      (Operation.load entry.package modules, Answer.loaded (.ok report)) ∈
        operations.zip answers ∧
      ∃ docs ∈ modules, entry ∈ Batch.entriesOf entry.package docs ∧
        ∃ page ∈ catalog.pages entry.package, page.module = entry.module ∧
          Batch.chunksOf entry.package docs = .ok page.chunks) ∧
    ∀ package modules report,
      (Operation.load package modules, Answer.loaded (.ok report)) ∈ operations.zip answers →
        let sound := modules.filter (Batch.isSound package)
        let unsound := modules.filter fun docs => !Batch.isSound package docs
        report.indexed = sound.map Docs.ModuleDocs.name ∧
        report.failed = unsound.map Docs.ModuleDocs.name ∧
        catalog.pages package = sound.filterMap (Batch.pageOf? package) ∧
        (catalog.entries.filter fun entry => entry.package = package) =
          sound.flatMap (Batch.entriesOf package) := by
  intro answers catalog
  have holds : Holds ((operations.zip answers).filterMap taken?) catalog :=
    holds_performAll (faithful_start settings) .empty operations
  have loaded {package : String} {modules : List Docs.ModuleDocs} {report : LoadReport}
      (told : (Operation.load package modules, Answer.loaded (.ok report)) ∈
        operations.zip answers) :
      ⟨package, modules⟩ ∈ (operations.zip answers).filterMap taken? :=
    List.mem_filterMap.mpr ⟨_, told, rfl⟩
  refine ⟨?_, ?_, ?_⟩
  · intro package page listed name home mentioned
    exact holds.mentioned listed mentioned
  · intro entry member
    obtain ⟨⟨package, modules⟩, taken, rfl, docs, given, owned, page⟩ :=
      holds.page_of_mem_entries member
    obtain ⟨asked, listed, matched⟩ := List.mem_filterMap.mp taken
    obtain ⟨report, rfl⟩ := taken?_eq_some matched
    exact ⟨modules, report, listed, docs, given, owned, page⟩
  · intro package modules report told sound unsound
    have member := loaded told
    have reported := report_of_mem_performAll told
    have pages := holds.pages_eq member
    have entries := holds.filter_entries member
    refine ⟨?_, ?_, ?_, ?_⟩
    · rw [reported]
      exact Batch.indexed_ofModules package modules
    · rw [reported]
      exact Batch.failed_ofModules package modules
    · exact pages.trans (Batch.pages_ofModules package modules)
    · exact entries.trans (Batch.entries_ofModules package modules)

end Session
end SignatureSearch
