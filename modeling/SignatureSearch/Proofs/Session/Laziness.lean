import SignatureSearch.Proofs.Catalog.Display
import SignatureSearch.Proofs.Session.Demand
import SignatureSearch.Proofs.Session.Refusals

/-!
# Laziness is exact

A session takes steps one after another while queries that were started before are under way, to be
ranked and answered at any later time, in any order.  The canonical form of an entry is known
exactly when something that happened since its package was loaded called for it.  It is the
canonical form of what the signature stands for, and it stays known.
-/

namespace SignatureSearch
namespace Session

open Catalog (IsKnown Settled Slot)
open Signature (TypeExpr parse?)

/-- Something that happens while queries are under way. -/
inductive Event where
  /-- The session takes a step. -/
  | step (step : Step)
  /-- From now on signatures are worked out on loading, or not. -/
  | eagerly (eager : Bool)
  /-- A query is started. -/
  | start (limit : Option Int) (query : String)
  /-- The query at a position is ranked, unless it has been. -/
  | rank (index : Nat)
  /-- The query at a position is answered. -/
  | answer (index : Nat)

namespace Course

/-- Answer the query at a position: finish it, and show its ranking unless it comes too late. -/
def answer (course : Course) (index : Nat) :
    Except TypeExpr.NotAType (Option Response) × Course :=
  match course.finish index with
  | (.error error, course) => (.error error, course)
  | (.ok none, course) => (.ok none, course)
  | (.ok (some ranking), course) =>
      match course.session.present ranking with
      | (response, session) => (.ok (some response), { course with session })

/-- Let one event happen. -/
def after (course : Course) : Event → Course
  | .step step => { course with session := course.session.after step }
  | .eagerly eager => { course with session := course.session.eagerly eager }
  | .start limit query => course.start limit query
  | .rank index => course.rank index
  | .answer index => (course.answer index).2

/-- Let one event happen after another. -/
def follow (course : Course) (events : List Event) : Course :=
  events.foldl after course

/-- The query at a position is for a type, and it has not been ranked. -/
def AwaitsType (course : Course) (index : Nat) : Prop :=
  ∃ call, course.calls[index]? = some call ∧ call.ranking = none ∧ asks .type call.query = true

/-- An event calls for the canonical form of the entry at a position. -/
inductive CallsFor (course : Course) (position : Nat) : Event → Prop where
  /-- A step calls for it. -/
  | step {step : Step} (called : course.session.CallsFor position step) :
      CallsFor course position (.step step)
  /-- A query for a type is ranked. -/
  | rank {index : Nat} (awaits : course.AwaitsType index) : CallsFor course position (.rank index)
  /-- A query for a type has to be ranked to be answered, maybe too late. -/
  | answerRank {index : Nat} (awaits : course.AwaitsType index) :
      CallsFor course position (.answer index)
  /-- A query for names is answered with the entry. -/
  | answer {index : Nat} {ranking : Ranking}
      (finished : (course.finish index).1 = .ok (some ranking)) (name : ranking.mode = .name)
      (found : position ∈ ranking.positions) : CallsFor course position (.answer index)

/-! ## Queries under way -/

/-- What is kept is right, and a query for a type that has been ranked has called for the forms of
all entries that it found. -/
structure InOrder (course : Course) : Prop where
  /-- The session keeps nothing false. -/
  faithful : course.session.Faithful
  /-- What has been found is known. -/
  found : ∀ call ∈ course.calls, ∀ ranking, call.ranking = some (.ok ranking) →
    ranking.mode = .type →
      ∀ position ∈ ranking.positions, IsKnown course.session.catalog.slots position

variable {course : Course}

theorem settled_rank (course : Course) (index : Nat) :
    Settled (fun _ => course.AwaitsType index) course.session.catalog.slots
      (course.rank index).session.catalog.slots := by
  rcases course.rank_cases index with ⟨same, already⟩ | ⟨call, listed, unranked, same⟩
  · rw [same]
    refine (Settled.refl _).congr fun _ => iff_of_false id ?_
    rintro ⟨call, listed, unranked, -⟩
    exact already call listed unranked
  · rw [same]
    refine (course.session.settled_rankConfigured call.limit call.query).congr fun _ => ?_
    constructor
    · exact fun type => ⟨call, listed, unranked, type⟩
    · rintro ⟨own, found, -, type⟩
      obtain rfl : call = own := Option.some.inj (listed.symm.trans found)
      exact type

theorem inOrder_rank (ordered : course.InOrder) (index : Nat) : (course.rank index).InOrder := by
  have settled := course.settled_rank index
  rcases course.rank_cases index with ⟨same, -⟩ | ⟨call, listed, unranked, same⟩
  · rwa [same]
  · have agree := agree_rankConfigured ordered.faithful call.limit call.query
    have known (position : Nat) : IsKnown (course.rank index).session.catalog.slots position ↔ _ :=
      settled.isKnown_iff
    rw [same] at known ⊢
    refine ⟨agree.otherFaithful, fun other member ranking given type position listedPosition => ?_⟩
    rcases List.mem_or_eq_of_mem_set member with before | rfl
    · have before := ordered.found other before ranking given type position listedPosition
      exact (known position).mpr (.inl before)
    · -- The ranking is new: it is for a type, so it has called for all forms.
      obtain ⟨mode, located⟩ := located_rank ordered.faithful (Option.some.inj given)
      have awaits : course.AwaitsType index :=
        ⟨call, listed, unranked, asks_type_iff.mpr (mode.symm.trans type)⟩
      obtain ⟨own, inside, rfl⟩ := List.mem_map.mp listedPosition
      have below := (List.getElem?_eq_some_iff.mp (located own inside)).1
      rw [Catalog.length_entries] at below
      exact (known own.position).mpr (.inr ⟨below, awaits⟩)

/-- A query that is finished gives a ranking of its own. -/
theorem ranking_of_finish {index : Nat} {ranking : Ranking}
    (finished : (course.finish index).1 = .ok (some ranking)) :
    ∃ call ∈ (course.rank index).calls, call.ranking = some (.ok ranking) := by
  rw [finish] at finished
  split at finished
  · rename_i listed
    split at finished
    · cases finished
      exact ⟨_, List.mem_of_getElem? listed, rfl⟩
    · cases finished
  · cases finished
  · cases finished

/-- A query that is answered is finished, and its ranking is shown if it gives one. -/
theorem answer_cases (course : Course) (index : Nat) :
    ((∀ ranking, (course.finish index).1 ≠ .ok (some ranking)) ∧
      (course.answer index).2 = (course.finish index).2) ∨
    ∃ ranking, (course.finish index).1 = .ok (some ranking) ∧
      (course.answer index).2 =
        { (course.finish index).2 with
          session := ((course.finish index).2.session.present ranking).2 } := by
  rw [answer]
  generalize course.finish index = finished
  obtain ⟨_ | _ | ranking, after⟩ := finished
  · exact .inl ⟨nofun, rfl⟩
  · exact .inl ⟨nofun, rfl⟩
  · exact .inr ⟨ranking, rfl, rfl⟩

/-! ## Events -/

/-- More may be worked out, and queries started, while those that have been ranked stay as they
are. -/
theorem InOrder.of_advances {called : Nat → Prop} {after : Course} (ordered : course.InOrder)
    (faithful : after.session.Faithful) (advances : Advances called course.session after.session)
    (calls : ∀ call ∈ after.calls, call ∈ course.calls ∨ call.ranking = none) :
    after.InOrder where
  faithful := faithful
  found call listed ranking given type position found := by
    rcases calls call listed with before | unranked
    · have known := ordered.found call before ranking given type position found
      exact (advances.known position).mpr (.inl known)
    · rw [unranked] at given
      cases given

theorem inOrder_answer (ordered : course.InOrder) (index : Nat) :
    (course.answer index).2.InOrder := by
  have ranked := inOrder_rank ordered index
  obtain ⟨same, calls⟩ := course.snd_finish index
  have idle : Settled (fun _ => False) (course.rank index).session.catalog.slots
      (course.finish index).2.session.catalog.slots := by
    rw [same.catalog]
    exact .refl _
  have finished : (course.finish index).2.InOrder :=
    ranked.of_advances (same.agree ranked.faithful).otherFaithful (.of_settled idle)
      fun call listed => .inl (calls ▸ listed)
  rcases course.answer_cases index with ⟨-, answered⟩ | ⟨ranking, -, answered⟩
  · rwa [answered]
  · rw [answered]
    have shown := (course.finish index).2.session.settled_present ranking
    exact finished.of_advances (agree_present finished.faithful ranking).otherFaithful
      (.of_settled shown) fun call listed => .inl listed

theorem advances_answer (ordered : course.InOrder) (index : Nat) :
    Advances (course.CallsFor · (.answer index)) course.session
      (course.answer index).2.session := by
  have ranked := course.settled_rank index
  obtain ⟨same, -⟩ := course.snd_finish index
  rcases course.answer_cases index with ⟨nothing, answered⟩ | ⟨ranking, finished, answered⟩
  · rw [answered]
    refine .of_settled ?_
    rw [same.catalog]
    refine ranked.congr fun position => ⟨.answerRank, ?_⟩
    rintro (_ | _ | awaits | ⟨finished, -, -⟩)
    · exact awaits
    · exact absurd finished (nothing _)
  · have shown := (course.finish index).2.session.settled_present ranking
    rw [same.catalog] at shown
    have both := ranked.trans shown
    rw [answered]
    refine ⟨(Advances.of_settled both).kept, fun position => ?_⟩
    rw [both.isKnown_iff, Catalog.size, both.length]
    constructor
    · rintro (known | ⟨inside, awaits | found⟩)
      · exact .inl known
      · exact .inr ⟨inside, .answerRank awaits⟩
      · cases mode : ranking.mode with
        | name => exact .inr ⟨inside, .answer finished mode found⟩
        | type =>
            -- What a query for a type found was known as soon as it was ranked.
            obtain ⟨call, listed, given⟩ := ranking_of_finish finished
            have known := (inOrder_rank ordered index).found call listed ranking given mode
              position found
            exact (ranked.isKnown_iff.mp known).imp_right (And.imp_right .answerRank)
    · rintro (known | ⟨inside, _ | _ | awaits | ⟨other, -, found⟩⟩)
      · exact .inl known
      · exact .inr ⟨inside, .inl awaits⟩
      · cases finished.symm.trans other
        exact .inr ⟨inside, .inr found⟩

/-- An event works out what it calls for, and forgets nothing. -/
theorem advances_event (ordered : course.InOrder) (event : Event) :
    (course.after event).InOrder ∧
      Advances (course.CallsFor · event) course.session (course.after event).session := by
  cases event with
  | step step =>
      have advances := advances_after ordered.faithful step
      refine ⟨ordered.of_advances (faithful_after ordered.faithful step) advances
        fun call listed => .inl listed, advances.kept, fun position => ?_⟩
      refine (advances.known position).trans (or_congr_right (and_congr_right fun _ => ⟨.step, ?_⟩))
      rintro ⟨called⟩
      exact called
  | eagerly eager =>
      have idle : Settled (course.CallsFor · (.eagerly eager)) course.session.catalog.slots
          (course.session.eagerly eager).catalog.slots :=
        (Settled.refl _).congr fun _ => iff_of_false id nofun
      exact ⟨ordered.of_advances ordered.faithful (.of_settled idle) fun call listed => .inl listed,
        .of_settled idle⟩
  | start limit query =>
      have idle : Settled (course.CallsFor · (.start limit query)) course.session.catalog.slots
          (course.start limit query).session.catalog.slots :=
        (Settled.refl _).congr fun _ => iff_of_false id nofun
      refine ⟨ordered.of_advances ordered.faithful (.of_settled idle) fun call listed => ?_,
        .of_settled idle⟩
      refine (List.mem_append.mp listed).imp_right fun new => ?_
      rw [List.mem_singleton.mp new]
  | rank index =>
      refine ⟨inOrder_rank ordered index, .of_settled ((course.settled_rank index).congr ?_)⟩
      refine fun position => ⟨.rank, ?_⟩
      rintro (_ | awaits)
      exact awaits
  | answer index => exact ⟨inOrder_answer ordered index, advances_answer ordered index⟩

/-! ## Runs -/

/-- A list is split at its head or somewhere behind it. -/
theorem exists_split_cons_iff {α : Type} {first : α} {others : List α} {P : List α → α → Prop} :
    (∃ early item late, first :: others = early ++ item :: late ∧ P early item) ↔
      P [] first ∨ ∃ early item late, others = early ++ item :: late ∧ P (first :: early) item := by
  constructor
  · rintro ⟨_ | ⟨_, early⟩, item, late, same, holds⟩
    · cases same
      exact .inl holds
    · cases same
      exact .inr ⟨early, item, late, rfl, holds⟩
  · rintro (holds | ⟨early, item, late, rfl, holds⟩)
    · exact ⟨[], first, others, rfl, holds⟩
    · exact ⟨first :: early, item, late, rfl, holds⟩

/-- A run works out what its events call for, and forgets nothing. -/
theorem follow_spec (ordered : course.InOrder) (events : List Event) :
    (course.follow events).InOrder ∧
      (∀ (position : Nat) (slot : Slot), course.session.catalog.slots[position]? = some slot →
        ∃ later, (course.follow events).session.catalog.slots[position]? = some later ∧
          Slot.Keeps slot later) ∧
      ∀ position, IsKnown (course.follow events).session.catalog.slots position ↔
        IsKnown course.session.catalog.slots position ∨
          ∃ early event late, events = early ++ event :: late ∧
            position < (course.follow (early ++ [event])).session.catalog.size ∧
            (course.follow early).CallsFor position event := by
  induction events generalizing course with
  | nil =>
      refine ⟨ordered, fun _ slot listed => ⟨slot, listed, .refl slot⟩, fun position => ?_⟩
      refine (or_iff_left ?_).symm
      rintro ⟨early, event, late, same, -⟩
      exact absurd same.symm (List.append_ne_nil_of_right_ne_nil early (List.cons_ne_nil event late))
  | cons first events ih =>
      obtain ⟨next, advances⟩ := advances_event ordered first
      obtain ⟨last, kept, known⟩ := ih next
      refine ⟨last, fun position slot listed => ?_, fun position => ?_⟩
      · obtain ⟨middle, listedMiddle, keeps⟩ := advances.kept position slot listed
        obtain ⟨later, listedLater, keepsLater⟩ := kept position middle listedMiddle
        exact ⟨later, listedLater, keeps.trans keepsLater⟩
      · rw [exists_split_cons_iff, ← or_assoc]
        refine (known position).trans (or_congr_left (advances.known position))

/-- **Laziness is exact.**  After any events in a new session the canonical form of an entry is known
exactly when it was called for by an event after which the session held the entry, the load that
brought it included.  The form is that of the type for which the signature stands, or the signature
itself if that is refused; and whatever happens later, it stays known and the same. -/
theorem cached_follow (settings : Settings) (events : List Event) (position : Nat) :
    let begun : Course := { session := Session.start settings }
    let course := begun.follow events
    (course.session.cached[position]? = some true ↔
      ∃ early event late, events = early ++ event :: late ∧
        position < (begun.follow (early ++ [event])).session.catalog.size ∧
        (begun.follow early).CallsFor position event) ∧
    ∀ slot type, course.session.catalog.slots[position]? = some slot →
      slot.normalized = some type →
        (∀ parsed, parse? slot.entry.signature = .ok parsed → parsed.normalize = .ok type) ∧
        (∀ error, parse? slot.entry.signature = .error error →
          type = .var slot.entry.signature) ∧
        ∀ later, ∃ after, (course.follow later).session.catalog.slots[position]? = some after ∧
          after.entry = slot.entry ∧ after.normalized = some type := by
  intro begun course
  have ordered : begun.InOrder := ⟨faithful_start settings, fun _ listed => nomatch listed⟩
  obtain ⟨last, -, known⟩ := follow_spec ordered events
  refine ⟨(known position).trans (or_iff_right nofun), fun slot type listed kept => ?_⟩
  have right : type = slot.entry.normalized :=
    (last.faithful slot (List.mem_of_getElem? listed)).normalized type kept
  refine ⟨fun parsed accepted => ?_, fun error refused => ?_, fun later => ?_⟩
  · have typed := (Signature.wellFormed_of_parse? accepted).firstForeign?_eq_none
    rw [TypeExpr.normalize_of_no_foreign typed, right,
      Catalog.Entry.normalized_of_accepted accepted]
  · rw [right, Catalog.Entry.normalized_of_refused refused]
  · obtain ⟨after, listedAfter, keeps⟩ := (follow_spec last later).2.1 position slot listed
    have stays := keeps.kept (kept ▸ Option.some_ne_none type)
    exact ⟨after, listedAfter, keeps.entry, stays.trans kept⟩

/-- Two packages are loaded, only the second one eagerly, and of the first one a type is shown. -/
example :
    let basics : Docs.ModuleDocs :=
      { name := "Basics", comment := "", entries := .ofRows [("ignore", ⟨"a -> ()", ""⟩)]
        named := by decide }
    let course := follow { session := Session.start {} }
      [.step (.ask (.load "core" [basics])), .step (.look 0 .typeText), .eagerly true,
        .step (.ask (.load "html" [basics]))]
    course.session.cached = [false, true] ∧
      (course.after (.step (.look 0 .normalized))).session.cached = [true, true] := by
  decide +kernel

end Course
end Session
end SignatureSearch
