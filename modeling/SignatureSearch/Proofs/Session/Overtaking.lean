import SignatureSearch.Proofs.Session.Loads
import SignatureSearch.Proofs.Session.Rankings

/-!
# Queries that overtake one another

Queries can be started while others are under way, ranked whenever there is time, and finished in
any order; a session may load packages or answer other queries in between.  Each query draws a
ticket when it is started and keeps it, while every query that is started later draws a newer one.
So a query that is finished still has the newest ticket exactly when none has been started after it,
and only then does it give its ranking.
-/

namespace SignatureSearch

namespace Search
namespace Turns

theorem length_startAll {α : Type} (turns : Turns) (queries : List α) :
    (turns.startAll queries).1.length = queries.length := by
  induction queries generalizing turns with
  | nil => rfl
  | cons query queries ih => exact congrArg Nat.succ (ih turns.start.2)

theorem snd_startAll {α : Type} {turns : Turns} (newest : turns.latest = turns.drawn)
    (queries : List α) :
    (turns.startAll queries).2 =
      { drawn := turns.drawn + queries.length, latest := turns.drawn + queries.length } := by
  induction queries generalizing turns with
  | nil =>
      obtain ⟨drawn, latest⟩ := turns
      cases newest
      rfl
  | cons query queries ih =>
      have rest := @ih turns.start.2 rfl
      have counted : turns.drawn + 1 + queries.length =
          turns.drawn + (query :: queries).length := by
        rw [List.length_cons]
        omega
      change (turns.start.2.startAll queries).2 =
        { drawn := turns.drawn + 1 + queries.length
          latest := turns.drawn + 1 + queries.length } at rest
      rw [counted] at rest
      exact rest

/-- Of queries that are started together, the ticket of the last one counts. -/
theorem exists_counts_startAll {α : Type} (turns : Turns) (queries : List α)
    (P : α → Prop) :
    (∃ call ∈ (turns.startAll queries).1,
        (turns.startAll queries).2.counts call.1 = true ∧ P call.2) ↔
      ∃ query ∈ queries.getLast?, P query := by
  induction queries generalizing turns with
  | nil => simp [startAll]
  | cons query queries ih =>
      have later := ih turns.start.2
      have own : (turns.startAll (query :: queries)).2.counts turns.start.1 = true ↔
          queries = [] := by
        change (turns.start.2.startAll queries).2.counts turns.start.1 = true ↔ _
        rw [snd_startAll rfl, counts, beq_iff_eq, ← List.length_eq_zero_iff]
        change turns.drawn + 1 = turns.drawn + 1 + queries.length ↔ _
        omega
      change (∃ call ∈ (turns.start.1, query) :: (turns.start.2.startAll queries).1, _) ↔ _
      rw [List.exists_mem_cons_iff, own]
      change _ ∨ (∃ call ∈ (turns.start.2.startAll queries).1,
        (turns.start.2.startAll queries).2.counts call.1 = true ∧ P call.2) ↔ _
      rw [later]
      cases queries with
      | nil => simp
      | cons next queries => simp

end Turns
end Search

namespace Session

open Catalog (Delivery Entry)
open Signature (TypeExpr)

/-! ## Calls under way -/

/-- A query that has been started. -/
structure Call where
  /-- The ticket that it drew. -/
  ticket : Nat
  /-- Its own limit. -/
  limit : Option Int
  /-- What it asks. -/
  query : String
  /-- Its ranking, once it has been ranked. -/
  ranking : Option (Except TypeExpr.NotAType Ranking) := none

/-- A session and the queries that have been started in it, in the order of starting. -/
structure Course where
  /-- The session. -/
  session : Session
  /-- The queries. -/
  calls : List Call := []

/-- Something that happens while queries are under way. -/
inductive Move where
  /-- A query is started. -/
  | start (limit : Option Int) (query : String)
  /-- The query at a position is ranked, unless it has been. -/
  | rank (position : Nat)
  /-- The query at a position is finished. -/
  | finish (position : Nat)
  /-- A ranking is shown. -/
  | present (ranking : Ranking)
  /-- The session is asked to do something else. -/
  | ask (operation : Operation)

namespace Course

/-- Start a query. -/
def start (course : Course) (limit : Option Int) (query : String) : Course :=
  match course.session.turns.start with
  | (ticket, turns) =>
      { session := { course.session with turns }
        calls := course.calls ++ [{ ticket, limit, query }] }

/-- Rank the query at a position, unless it has been ranked. -/
def rank (course : Course) (position : Nat) : Course :=
  match course.calls[position]? with
  | some { ticket, limit, query, ranking := none } =>
      match course.session.rankConfigured limit query with
      | (result, session) =>
          { session
            calls := course.calls.set position { ticket, limit, query, ranking := some result } }
  | _ => course

/-- Finish the query at a position: wait for its ranking, and give it unless it comes too late. -/
def finish (course : Course) (position : Nat) :
    Except TypeExpr.NotAType (Option Ranking) × Course :=
  let ranked := course.rank position
  match ranked.calls[position]? with
  | some { ticket, ranking := some (.ok ranking), .. } =>
      if ranked.session.turns.counts ticket then (.ok (some ranking), ranked)
      else
        (.ok none,
          { ranked with session := ranked.session.note .debug .query (staleMessage ranking) })
  | some { ranking := some (.error error), .. } => (.error error, ranked)
  | _ => (.ok none, ranked)

/-- Let one thing happen. -/
def move (course : Course) : Move → Course
  | .start limit query => course.start limit query
  | .rank position => course.rank position
  | .finish position => (course.finish position).2
  | .present ranking => { course with session := (course.session.present ranking).2 }
  | .ask operation => { course with session := (course.session.perform operation).2 }

/-- Let one thing happen after another. -/
def run (course : Course) (moves : List Move) : Course :=
  moves.foldl move course

end Course

/-- How many queries that may overtake others an operation starts. -/
def Operation.starts : Operation → Nat
  | .searchLatest _ queries => queries.length
  | _ => 0

/-- How many queries are started. -/
def Move.starts : Move → Nat
  | .start _ _ => 1
  | .ask operation => operation.starts
  | _ => 0

/-- The ranking of a query among entries as it is configured. -/
def rankingFor (settings : Settings) (limit : Option Int) (query : String)
    (entries : List Entry) : Except TypeExpr.NotAType Ranking :=
  rankingOf settings.nameSearchIncludesTypes (some (limit.getD settings.maxResults.1)) query entries

/-! ## What an operation does to the tickets -/

/-- A session that gives true answers under some settings, and whose latest ticket is the newest. -/
structure Sound (settings : Settings) (session : Session) : Prop where
  /-- It keeps nothing false. -/
  faithful : session.Faithful
  /-- It gives as many results as it is configured to. -/
  maxResults : session.settings.maxResults = settings.maxResults
  /-- It searches in an entry what it is configured to. -/
  includesTypes : session.settings.nameSearchIncludesTypes = settings.nameSearchIncludesTypes
  /-- The ticket drawn last is the newest. -/
  newest : session.turns.latest = session.turns.drawn

theorem sound_start (settings : Settings) : Sound settings (start settings) :=
  ⟨faithful_start settings, rfl, rfl, rfl⟩

section Sound

variable {settings : Settings} {session after : Session}

theorem Sound.of_agree (sound : Sound settings session) (agree : Agree session after) :
    Sound settings after :=
  ⟨agree.otherFaithful, agree.maxResults ▸ sound.maxResults,
    agree.includesTypes ▸ sound.includesTypes, agree.turns ▸ sound.newest⟩

theorem Sound.rankConfigured_eq (sound : Sound settings session) (limit : Option Int)
    (query : String) :
    (session.rankConfigured limit query).1 =
      rankingFor settings limit query session.catalog.entries := by
  rw [rankConfigured, fst_rank sound.faithful, rankingFor, limitOf, sound.maxResults,
    sound.includesTypes]

/-- Only queries that are started together draw tickets, one each. -/
theorem sound_perform (sound : Sound settings session) (operation : Operation) :
    Sound settings (session.perform operation).2 ∧
      (session.perform operation).2.turns.latest = session.turns.latest + operation.starts := by
  have faithful := sound.faithful
  have still {after : Session} (agree : Agree session after) :
      Sound settings after ∧ after.turns.latest = session.turns.latest :=
    ⟨sound.of_agree agree, by rw [agree.turns]⟩
  cases operation with
  | load package modules =>
      have kept := faithful_load faithful ⟨package, modules⟩
      rcases session.load_cases ⟨package, modules⟩ with ⟨-, -, same⟩ | ⟨grown, -, -, same⟩
      · exact still (same.agree faithful)
      · have configured := same.settings
        have drawn := same.turns
        refine ⟨⟨kept, ?_, ?_, ?_⟩, congrArg Search.Turns.latest drawn⟩
        · exact (congrArg Settings.maxResults configured).trans sound.maxResults
        · exact (congrArg Settings.nameSearchIncludesTypes configured).trans sound.includesTypes
        · exact (congrArg Search.Turns.latest drawn).trans
            (sound.newest.trans (congrArg Search.Turns.drawn drawn).symm)
  | search limit query => exact still (agree_search faithful limit query)
  | searchLatest limit queries =>
      have agree := agree_searchLatest faithful limit queries
      have turns := Search.Turns.snd_startAll sound.newest queries
      have started : Sound settings { session with turns := (session.turns.startAll queries).2 } :=
        ⟨faithful, sound.maxResults, sound.includesTypes, by rw [turns]⟩
      refine ⟨started.of_agree agree, ?_⟩
      have latest := congrArg Search.Turns.latest (agree.turns.symm.trans turns)
      rw [sound.newest]
      exact latest
  | rank includeTypes limit query => exact still (agree_rank faithful includeTypes limit query)
  | warm => exact still (agree_warm faithful)
  | inspect => exact still (agree_inspect faithful)
  | _ => exact still (.refl faithful)

end Sound

/-! ## What a move does to the calls -/

/-- What a call may turn into while the session has some entries: it is left as it is, or it is
ranked among them for the first time. -/
def Call.Becomes (settings : Settings) (entries : List Entry) (call after : Call) : Prop :=
  after = call ∨
    call.ranking = none ∧
      after = { call with ranking := some (rankingFor settings call.limit call.query entries) }

namespace Course

/-- The calls of a sound session that are under way: none has a ticket that is too new, and none has
failed. -/
structure Orderly (settings : Settings) (course : Course) : Prop where
  /-- The session is sound. -/
  sound : Sound settings course.session
  /-- Tickets are drawn in order. -/
  drawn : ∀ call ∈ course.calls, call.ticket ≤ course.session.turns.latest
  /-- Ranking has not failed. -/
  ranked : ∀ call ∈ course.calls, ∀ result ∈ call.ranking, ∃ ranking, result = .ok ranking

variable {settings : Settings} {course : Course}

theorem orderly_empty (settings : Settings) :
    Orderly settings { session := Session.start settings } :=
  ⟨sound_start settings, by simp, by simp⟩

/-- Ranking a call changes nothing, or the call was not ranked and is ranked now. -/
theorem rank_cases (course : Course) (position : Nat) :
    (course.rank position = course ∧
      ∀ call, course.calls[position]? = some call → call.ranking ≠ none) ∨
    ∃ call, course.calls[position]? = some call ∧ call.ranking = none ∧
      course.rank position =
        { session := (course.session.rankConfigured call.limit call.query).2
          calls := course.calls.set position
            { call with
              ranking := some (course.session.rankConfigured call.limit call.query).1 } } := by
  cases listed : course.calls[position]? with
  | none =>
      refine .inl ⟨?_, fun call found => nomatch found⟩
      rw [rank, listed]
  | some call =>
      obtain ⟨ticket, limit, query, ranking⟩ := call
      cases ranking with
      | none =>
          refine .inr ⟨_, rfl, rfl, ?_⟩
          rw [rank, listed]
      | some result =>
          refine .inl ⟨?_, ?_⟩
          · rw [rank, listed]
          · rintro call ⟨⟩
            exact Option.some_ne_none result

theorem orderly_start (orderly : course.Orderly settings) (limit : Option Int) (query : String) :
    (course.start limit query).Orderly settings := by
  obtain ⟨sound, drawn, ranked⟩ := orderly
  have older : course.session.turns.latest ≤ course.session.turns.drawn + 1 := by
    rw [sound.newest]
    exact Nat.le_succ _
  refine ⟨⟨sound.faithful, sound.maxResults, sound.includesTypes, rfl⟩, ?_, ?_⟩
  · intro call listed
    rcases List.mem_append.mp listed with before | new
    · exact (drawn call before).trans older
    · obtain rfl := List.mem_singleton.mp new
      exact Nat.le_refl _
  · intro call listed result given
    rcases List.mem_append.mp listed with before | new
    · exact ranked call before result given
    · obtain rfl := List.mem_singleton.mp new
      cases given

theorem orderly_rank (orderly : course.Orderly settings) (position : Nat) :
    (course.rank position).Orderly settings ∧
      (course.rank position).session.turns = course.session.turns := by
  rcases course.rank_cases position with ⟨same, -⟩ | ⟨call, listed, -, same⟩
  · rw [same]
    exact ⟨orderly, rfl⟩
  · have agree := agree_rankConfigured orderly.sound.faithful call.limit call.query
    have inside : call ∈ course.calls := List.mem_of_getElem? listed
    rw [same]
    refine ⟨⟨orderly.sound.of_agree agree, ?_, ?_⟩, agree.turns.symm⟩
    · intro other member
      dsimp only at member ⊢
      rw [← agree.turns]
      rcases List.mem_or_eq_of_mem_set member with before | rfl
      · exact orderly.drawn other before
      · exact orderly.drawn call inside
    · intro other member result given
      rcases List.mem_or_eq_of_mem_set member with before | rfl
      · exact orderly.ranked other before result given
      · cases given
        obtain ⟨ranking, after, answered, -⟩ :=
          course.session.rankConfigured_succeeds call.limit call.query
        exact ⟨ranking, congrArg Prod.fst answered⟩

/-- Ranking leaves the calls in place, and the one at its position is ranked after that. -/
theorem becomes_rank (orderly : course.Orderly settings) (position : Nat) {index : Nat}
    {call : Call} (listed : course.calls[index]? = some call) :
    ∃ after, (course.rank position).calls[index]? = some after ∧
      call.Becomes settings course.session.catalog.entries after ∧
      (position = index → after.ranking ≠ none) := by
  rcases course.rank_cases position with ⟨same, already⟩ | ⟨own, found, unranked, same⟩
  · rw [same]
    refine ⟨call, listed, .inl rfl, ?_⟩
    rintro rfl
    exact already call listed
  · rw [same, List.getElem?_set]
    by_cases here : position = index
    · subst here
      obtain rfl : own = call := Option.some.inj (found.symm.trans listed)
      have inside := (List.getElem?_eq_some_iff.mp listed).1
      rw [if_pos rfl, if_pos inside]
      refine ⟨_, rfl, .inr ⟨unranked, ?_⟩, fun _ => Option.some_ne_none _⟩
      rw [orderly.sound.rankConfigured_eq]
    · rw [if_neg here]
      exact ⟨call, listed, .inl rfl, fun same => absurd same here⟩

/-- Finishing a call does no more to the course than ranking it. -/
theorem snd_finish (course : Course) (position : Nat) :
    SameWork (course.rank position).session (course.finish position).2.session ∧
      (course.finish position).2.calls = (course.rank position).calls := by
  rw [finish]
  split
  · split
    · exact ⟨⟨rfl, rfl, rfl⟩, rfl⟩
    · exact ⟨⟨rfl, rfl, rfl⟩, rfl⟩
  · exact ⟨⟨rfl, rfl, rfl⟩, rfl⟩
  · exact ⟨⟨rfl, rfl, rfl⟩, rfl⟩

/-- A call that is finished gives its ranking exactly when its ticket is the newest. -/
theorem fst_finish (orderly : course.Orderly settings) {position : Nat} {call : Call}
    (listed : course.calls[position]? = some call) :
    ∃ ranking,
      (course.finish position).1 =
        .ok (if call.ticket = course.session.turns.latest then some ranking else none) ∧
      (call.ranking = some (.ok ranking) ∨ call.ranking = none ∧
        rankingFor settings call.limit call.query course.session.catalog.entries =
          .ok ranking) := by
  obtain ⟨rankedOrderly, turns⟩ := orderly_rank orderly position
  obtain ⟨after, listedAfter, turned, rankedAfter⟩ := becomes_rank orderly position listed
  obtain ⟨result, given⟩ := Option.ne_none_iff_exists'.mp (rankedAfter rfl)
  obtain ⟨ranking, rfl⟩ :=
    rankedOrderly.ranked after (List.mem_of_getElem? listedAfter) result given
  have sameTicket : after.ticket = call.ticket := by
    rcases turned with rfl | ⟨-, rfl⟩ <;> rfl
  refine ⟨ranking, ?_, ?_⟩
  · obtain ⟨ticket, limit, query, kept⟩ := after
    cases given
    cases sameTicket
    rw [finish, listedAfter]
    by_cases last : call.ticket = course.session.turns.latest
    · simp [turns, Search.Turns.counts, last]
    · simp [turns, Search.Turns.counts, last]
  · rcases turned with rfl | ⟨unranked, rfl⟩
    · exact .inl given
    · exact .inr ⟨unranked, Option.some.inj given⟩

/-- Whatever happens, calls stay in order and in place, and a call is ranked at most once, among the
entries that are there then. -/
theorem move_spec (orderly : course.Orderly settings) (move : Move) :
    (course.move move).Orderly settings ∧
      (course.move move).session.turns.latest = course.session.turns.latest + move.starts ∧
      ∀ (index : Nat) (call : Call), course.calls[index]? = some call →
        ∃ after, (course.move move).calls[index]? = some after ∧
          call.Becomes settings course.session.catalog.entries after := by
  cases move with
  | start limit query =>
      refine ⟨orderly_start orderly limit query, ?_, fun index call listed => ?_⟩
      · exact congrArg Nat.succ orderly.sound.newest.symm
      · exact ⟨call, (List.getElem?_append_left
          (List.getElem?_eq_some_iff.mp listed).1).trans listed, .inl rfl⟩
  | rank position =>
      obtain ⟨still, turns⟩ := orderly_rank orderly position
      exact ⟨still, congrArg Search.Turns.latest turns,
        fun index call listed =>
          (becomes_rank orderly position listed).imp fun _ => And.imp_right And.left⟩
  | finish position =>
      obtain ⟨still, turns⟩ := orderly_rank orderly position
      obtain ⟨same, calls⟩ := course.snd_finish position
      have agree := same.agree still.sound.faithful
      refine ⟨⟨still.sound.of_agree agree, ?_, ?_⟩, ?_, ?_⟩
      · rw [move, calls, same.turns]
        exact still.drawn
      · rw [move, calls]
        exact still.ranked
      · rw [move, same.turns, turns]
        rfl
      · intro index call listed
        rw [move, calls]
        exact (becomes_rank orderly position listed).imp fun _ => And.imp_right And.left
  | present ranking =>
      have agree := agree_present orderly.sound.faithful ranking
      refine ⟨⟨orderly.sound.of_agree agree, ?_, orderly.ranked⟩, ?_, ?_⟩
      · rw [move, ← agree.turns]
        exact orderly.drawn
      · exact congrArg Search.Turns.latest agree.turns.symm
      · exact fun index call listed => ⟨call, listed, .inl rfl⟩
  | ask operation =>
      obtain ⟨sound, latest⟩ := sound_perform orderly.sound operation
      refine ⟨⟨sound, ?_, orderly.ranked⟩, latest,
        fun index call listed => ⟨call, listed, .inl rfl⟩⟩
      intro call listed
      have old := orderly.drawn call listed
      change call.ticket ≤ (course.session.perform operation).2.turns.latest
      omega

/-- After any run the calls are still in order and in place; a call that was ranked has its ranking,
and one that has been ranked since was ranked among the entries of some moment of the run. -/
theorem run_spec (orderly : course.Orderly settings) (moves : List Move) :
    (course.run moves).Orderly settings ∧
      (course.run moves).session.turns.latest =
        course.session.turns.latest + (moves.map Move.starts).sum ∧
      ∀ (index : Nat) (call : Call), course.calls[index]? = some call →
        ∃ result, (course.run moves).calls[index]? = some { call with ranking := result } ∧
          (result = call.ranking ∨ call.ranking = none ∧
            ∃ early late, moves = early ++ late ∧
              result = some (rankingFor settings call.limit call.query
                (course.run early).session.catalog.entries)) := by
  induction moves generalizing course with
  | nil => exact ⟨orderly, rfl, fun index call listed => ⟨call.ranking, listed, .inl rfl⟩⟩
  | cons first moves ih =>
      obtain ⟨next, latest, calls⟩ := move_spec orderly first
      obtain ⟨last, latestLast, callsLast⟩ := ih next
      refine ⟨last, ?_, fun index call listed => ?_⟩
      · rw [List.map_cons, List.sum_cons, ← Nat.add_assoc, ← latest]
        exact latestLast
      · obtain ⟨after, listedAfter, turned⟩ := calls index call listed
        obtain ⟨result, listedLast, rankedLast⟩ := callsLast index after listedAfter
        rcases turned with rfl | ⟨unranked, rfl⟩
        · refine ⟨result, listedLast, rankedLast.imp_right ?_⟩
          rintro ⟨unranked, early, late, rfl, given⟩
          exact ⟨unranked, first :: early, late, rfl, given⟩
        · -- The call is ranked by the first move, so nothing later ranks it again.
          rcases rankedLast with rfl | ⟨impossible, -⟩
          · exact ⟨_, listedLast, .inr ⟨unranked, [], first :: moves, rfl, rfl⟩⟩
          · exact absurd impossible (Option.some_ne_none _)

theorem sum_starts_eq_zero_iff (moves : List Move) :
    (moves.map Move.starts).sum = 0 ↔ ∀ move ∈ moves, move.starts = 0 := by
  rw [List.sum_eq_zero_iff_forall_eq_nat, List.forall_mem_map]

/-- **The last query wins.**  Start a query at any time, and let anything happen after that.  When
the query is finished it gives a ranking exactly when no query has been started since, and that is
its own ranking among the entries of a moment in between.  Every query that was started before it
gives nothing any more. -/
theorem finish_run (settings : Settings) (before between : List Move) (limit : Option Int)
    (query : String) :
    let earlier : Course := Course.run { session := Session.start settings } before
    let begun := earlier.start limit query
    ∃ result, ((begun.run between).finish earlier.calls.length).1 = .ok result ∧
      (result.isSome ↔ ∀ move ∈ between, move.starts = 0) ∧
      (∀ ranking ∈ result, ∃ early late, between = early ++ late ∧
        rankingFor settings limit query (begun.run early).session.catalog.entries =
          .ok ranking) ∧
      ∀ older < earlier.calls.length, ((begun.run between).finish older).1 = .ok none := by
  intro earlier begun
  obtain ⟨orderlyBefore, -, -⟩ := run_spec (orderly_empty settings) before
  have orderly : begun.Orderly settings := orderly_start orderlyBefore limit query
  obtain ⟨orderlyLast, latest, calls⟩ := run_spec orderly between
  have listed : begun.calls[earlier.calls.length]? =
      some { ticket := earlier.session.turns.drawn + 1, limit, query } :=
    List.getElem?_concat_length
  obtain ⟨result, listedLast, ranked⟩ := calls _ _ listed
  obtain ⟨ranking, finished, given⟩ := fst_finish orderlyLast listedLast
  refine ⟨_, finished, ?_, ?_, ?_⟩
  · have newest : earlier.session.turns.drawn + 1 = begun.session.turns.latest := rfl
    have still : earlier.session.turns.drawn + 1 = (begun.run between).session.turns.latest ↔
        ∀ move ∈ between, move.starts = 0 := by
      rw [← sum_starts_eq_zero_iff, latest, newest]
      omega
    rw [← still]
    split <;> simp_all
  · intro own member
    have same : ranking = own := by
      split at member
      · exact Option.some.inj member
      · cases member
    subst same
    rcases ranked with rfl | ⟨-, early, late, rfl, rfl⟩
    · rcases given with ranked | ⟨-, now⟩
      · cases ranked
      · exact ⟨between, [], (List.append_nil between).symm, now⟩
    · rcases given with ranked | ⟨unranked, -⟩
      · exact ⟨early, late, rfl, Option.some.inj ranked⟩
      · cases unranked
  · intro older below
    have listedOlder : begun.calls[older]? = some earlier.calls[older] := by
      rw [← List.getElem?_eq_getElem below]
      exact List.getElem?_append_left below
    obtain ⟨resultOlder, listedOlderLast, -⟩ := calls _ _ listedOlder
    obtain ⟨rankingOlder, finishedOlder, -⟩ := fst_finish orderlyLast listedOlderLast
    have drawn : earlier.calls[older].ticket ≤ earlier.session.turns.latest :=
      orderlyBefore.drawn _ (List.getElem_mem below)
    have newest : begun.session.turns.latest = earlier.session.turns.latest + 1 :=
      congrArg Nat.succ orderlyBefore.sound.newest.symm
    rw [finishedOlder, if_neg]
    change ¬ earlier.calls[older].ticket = (begun.run between).session.turns.latest
    omega

/-! ## Queries started together -/

/-- Finish the calls at positions in order, and show the rankings that they give. -/
def answerAll (course : Course) :
    List Nat → Except TypeExpr.NotAType (List (Option Response)) × Course
  | [] => (.ok [], course)
  | position :: positions =>
      match course.finish position with
      | (.error error, course) => (.error error, course)
      | (.ok none, course) =>
          match course.answerAll positions with
          | (.error error, course) => (.error error, course)
          | (.ok responses, course) => (.ok (none :: responses), course)
      | (.ok (some ranking), course) =>
          match course.session.present ranking with
          | (response, session) =>
              match { course with session }.answerAll positions with
              | (.error error, course) => (.error error, course)
              | (.ok responses, course) => (.ok (some response :: responses), course)

/-- A query that has just been started. -/
def pending (limit : Option Int) (query : Nat × String) : Call :=
  { ticket := query.1, limit, query := query.2 }

/-- A query that has been ranked. -/
def ranked (limit : Option Int) (ranking : Nat × Ranking) : Call :=
  { ticket := ranking.1, limit, query := ranking.2.query, ranking := some (.ok ranking.2) }

theorem run_starts (course : Course) (limit : Option Int) (queries : List String) :
    course.run (queries.map (.start limit)) =
      { session := { course.session with turns := (course.session.turns.startAll queries).2 }
        calls :=
          course.calls ++ (course.session.turns.startAll queries).1.map (pending limit) } := by
  induction queries generalizing course with
  | nil =>
      rw [Search.Turns.startAll, List.map_nil, List.map_nil, List.append_nil]
      rfl
  | cons query queries ih =>
      have rest := ih (course.start limit query)
      have calls : (course.start limit query).calls =
          course.calls ++ [pending limit (course.session.turns.start.1, query)] := rfl
      rw [calls, List.append_assoc] at rest
      exact rest

theorem run_ranks (session : Session) (limit : Option Int) (front : List Call)
    (queries : List (Nat × String)) :
    ∃ rankings after, session.rankAll limit queries = (.ok rankings, after) ∧
      rankings.length = queries.length ∧
      Course.run { session, calls := front ++ queries.map (pending limit) }
          ((List.range' front.length queries.length).map .rank) =
        { session := after, calls := front ++ rankings.map (ranked limit) } := by
  induction queries generalizing session front with
  | nil => exact ⟨[], session, rfl, rfl, rfl⟩
  | cons query queries ih =>
      obtain ⟨ticket, query⟩ := query
      obtain ⟨ranking, next, answered, rfl⟩ := session.rankConfigured_succeeds limit query
      obtain ⟨rankings, after, rest, sizes, ran⟩ :=
        ih next (front ++ [ranked limit (ticket, ranking)])
      refine ⟨(ticket, ranking) :: rankings, after, ?_, congrArg Nat.succ sizes, ?_⟩
      · rw [rankAll, answered]
        dsimp only
        rw [rest]
      · have first : Course.rank
            { session
              calls := front ++ ((ticket, ranking.query) :: queries).map (pending limit) }
            front.length =
            { session := next
              calls :=
                front ++ [ranked limit (ticket, ranking)] ++ queries.map (pending limit) } := by
          simp [rank, pending, answered, ranked]
        rw [List.length_append, List.append_assoc, List.append_assoc] at ran
        rw [List.length_cons, List.range'_succ, List.map_cons]
        rw [List.append_assoc] at first
        exact (congrArg (Course.run · _) first).trans ran

theorem answerAll_ranked (session : Session) (limit : Option Int) (front : List Call)
    (rankings : List (Nat × Ranking)) :
    Course.answerAll { session, calls := front ++ rankings.map (ranked limit) }
        (List.range' front.length rankings.length) =
      (.ok (session.presentLatest rankings).1,
        { session := (session.presentLatest rankings).2
          calls := front ++ rankings.map (ranked limit) }) := by
  induction rankings generalizing session front with
  | nil => rfl
  | cons ranking rankings ih =>
      obtain ⟨ticket, ranking⟩ := ranking
      let course : Course :=
        { session, calls := front ++ ((ticket, ranking) :: rankings).map (ranked limit) }
      have listed : course.calls[front.length]? = some (ranked limit (ticket, ranking)) := by
        simp [course]
      have done : course.rank front.length = course := by
        rw [rank, listed]
        rfl
      have rest (after : Session) :
          Course.answerAll { course with session := after }
              (List.range' (front.length + 1) rankings.length) =
            (.ok (after.presentLatest rankings).1,
              { course with session := (after.presentLatest rankings).2 }) := by
        have later := ih after (front ++ [ranked limit (ticket, ranking)])
        rw [List.length_append, List.append_assoc] at later
        exact later
      have finished : course.finish front.length =
          if session.turns.counts ticket then (.ok (some ranking), course)
          else
            (.ok none,
              { course with
                session := session.note .debug .query (staleMessage ranking) }) := by
        rw [finish, done, listed]
        rfl
      change course.answerAll _ = (_, { course with session := _ })
      rw [List.length_cons, List.range'_succ, answerAll, presentLatest, finished]
      by_cases newest : session.turns.counts ticket = true
      · rw [if_pos newest, if_pos newest]
        dsimp only
        rw [rest]
      · rw [if_neg newest, if_neg newest]
        dsimp only
        rw [rest]

/-- Queries are answered together by starting all of them, then ranking them in order, and then
finishing them in order. -/
theorem searchLatest_eq_run (session : Session) (limit : Option Int) (queries : List String) :
    let positions := List.range queries.length
    let begun : Course := Course.run { session } (queries.map (.start limit))
    let answered := (begun.run (positions.map .rank)).answerAll positions
    session.searchLatest limit queries = (answered.1, answered.2.session) := by
  intro positions begun answered
  have sizes := session.turns.length_startAll queries
  have started : begun =
      { session := { session with turns := (session.turns.startAll queries).2 }
        calls := (session.turns.startAll queries).1.map (pending limit) } :=
    run_starts { session } limit queries
  obtain ⟨rankings, after, rankedAll, kept, ran⟩ :=
    run_ranks { session with turns := (session.turns.startAll queries).2 } limit []
      (session.turns.startAll queries).1
  have last := answerAll_ranked after limit [] rankings
  rw [sizes] at ran kept
  rw [kept] at last
  have done : answered =
      (.ok (after.presentLatest rankings).1,
        { session := (after.presentLatest rankings).2
          calls := rankings.map (ranked limit) }) := by
    change (begun.run (positions.map .rank)).answerAll positions = _
    rw [started]
    simp only [positions, List.range_eq_range']
    exact (congrArg (Course.answerAll · _) ran).trans last
  rw [done, searchLatest]
  dsimp only
  rw [rankedAll]

end Course
end Session
end SignatureSearch
