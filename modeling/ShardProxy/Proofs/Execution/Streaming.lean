/-
# Rows come set by set, and only when they are pulled

A stream over result sets gives what their concatenation has, in its order, a failed row in its
place like any other.  Behind that, it must not read ahead: a backend streams row by row, and a row
that it has given is held by nobody but the client.  `RowStream.take` is compared with the
concatenation at every number of rows, in both respects (`QueryResponse.take_stream`):

* the rows that come out are the first ones of the concatenation, and the backends have given these
  and no others, in this order;
* a set is asked only once the sets before it have nothing left and a further row is wanted.

A pull first settles, which skips the sets that have nothing left, and then gives a row of the set
where it has come to rest (`RowStream.next_eq`).  Settling moves the stream from set to set and
gives nothing; giving takes one row and stays at its set.
-/

import ShardProxy.Execution.RowStream

namespace ShardProxy

/-- A row with the data source that gives it and its position in the set. -/
structure SourcedRow where
  dataSource : String
  position : Nat
  row : FetchedRow

/-- What the log of a stream says of a row. -/
def SourcedRow.source (sourced : SourcedRow) : String × Nat :=
  (sourced.dataSource, sourced.position)

/-- The rows that a cursor has left, with their positions in the set. -/
def Cursor.sourced (cursor : Cursor) : List SourcedRow :=
  (cursor.remaining.zipIdx cursor.position).map fun (row, n) => ⟨cursor.dataSource, n, row⟩

/-- The rows of a set with their positions. -/
def ResultSet.sourced (set : ResultSet) : List SourcedRow :=
  set.rows.zipIdx.map fun (row, n) => ⟨set.dataSource, n, row⟩

/-- The rows of a response, one result set after the other. -/
def QueryResponse.rows (response : QueryResponse) : List FetchedRow :=
  response.sets.flatMap ResultSet.rows

/-- The rows of a response with the data sources that give them. -/
def QueryResponse.sourced (response : QueryResponse) : List SourcedRow :=
  response.sets.flatMap ResultSet.sourced

/-- The positions aside, a cursor has left what remains of its set. -/
@[simp] theorem Cursor.map_row_sourced (cursor : Cursor) :
    cursor.sourced.map SourcedRow.row = cursor.remaining := by
  rw [sourced, List.map_map]
  exact List.zipIdx_map_fst _ _

/-- The positions aside, the rows of a set are its rows. -/
@[simp] theorem ResultSet.map_row_sourced (set : ResultSet) :
    set.sourced.map SourcedRow.row = set.rows :=
  set.cursor.map_row_sourced

/-- The positions aside, sets one after the other have their rows one after the other. -/
theorem map_row_flatMap_sourced (sets : List ResultSet) :
    (sets.flatMap ResultSet.sourced).map SourcedRow.row = sets.flatMap ResultSet.rows := by
  rw [List.map_flatMap]
  simp only [ResultSet.map_row_sourced]

namespace RowStream

/-- The rows that a stream has left. -/
def sourced (stream : RowStream) : List SourcedRow :=
  stream.current.sourced ++ stream.pending.flatMap ResultSet.sourced

/-! ### One pull -/

/-- Skips the sets that have nothing left, up to the last one. -/
def settle (pulled : List (String × Nat)) : Cursor → List ResultSet → RowStream
  | cursor, [] => ⟨cursor, [], pulled⟩
  | ⟨_, _, []⟩, set :: sets => settle pulled set.cursor sets
  | cursor, sets => ⟨cursor, sets, pulled⟩

/-- The stream at the first set that has a row left, or else at the last set. -/
def settled (stream : RowStream) : RowStream :=
  settle stream.pulled stream.current stream.pending

/-- Gives a row of the current set, if that has one left. -/
def give (stream : RowStream) : Option FetchedRow × RowStream :=
  match stream.current.remaining with
  | [] => (none, stream)
  | row :: rows =>
    (some row, ⟨⟨stream.current.dataSource, stream.current.position + 1, rows⟩, stream.pending,
      stream.pulled ++ [(stream.current.dataSource, stream.current.position)]⟩)

/-- **A pull settles and then gives.** -/
theorem next_eq (stream : RowStream) : stream.next = stream.settled.give := by
  obtain ⟨cursor, pending, pulled⟩ := stream
  rw [next, settled]
  dsimp only
  induction pending generalizing cursor with
  | nil => rcases cursor with ⟨dataSource, n, _ | ⟨row, rows⟩⟩ <;> rfl
  | cons set sets ih =>
    rcases cursor with ⟨dataSource, n, _ | ⟨row, rows⟩⟩
    · exact ih set.cursor
    · rfl

/-- **A stream settles where it is if its set has a row left,** and else at a set of which nothing
has been given, with only sets without rows in between.  It has come to the last set if that one
has no row either. -/
theorem settled_cases (stream : RowStream) :
    (stream.current.remaining = [] → stream.pending = []) ∧ stream.settled = stream ∨
      stream.current.remaining = [] ∧ ∃ skipped set rest,
        (∀ s ∈ skipped, ResultSet.rows s = []) ∧ stream.pending = skipped ++ set :: rest ∧
        (set.rows = [] → rest = []) ∧ stream.settled = ⟨set.cursor, rest, stream.pulled⟩ := by
  obtain ⟨cursor, pending, pulled⟩ := stream
  rw [settled]
  dsimp only
  induction pending generalizing cursor with
  | nil => exact Or.inl ⟨fun _ => rfl, rfl⟩
  | cons set sets ih =>
    rcases cursor with ⟨dataSource, n, _ | ⟨row, rows⟩⟩
    · refine Or.inr ⟨rfl, ?_⟩
      obtain ⟨hlast, hstay⟩ | ⟨hdrained, skipped, last, rest, hskipped, rfl, hlast, hmove⟩ :=
        ih set.cursor
      · exact ⟨[], set, sets, by simp, rfl, hlast, hstay⟩
      · refine ⟨set :: skipped, last, rest, ?_, rfl, hlast, hmove⟩
        rintro s hs
        rcases List.mem_cons.1 hs with rfl | hs
        · exact hdrained
        · exact hskipped s hs
    · refine Or.inl ⟨fun h => ?_, rfl⟩
      cases h

/-- Settling asks no backend for a row. -/
theorem pulled_settled (stream : RowStream) : stream.settled.pulled = stream.pulled := by
  obtain ⟨-, hstay⟩ | ⟨-, skipped, set, rest, -, -, -, hmove⟩ := stream.settled_cases
  · rw [hstay]
  · rw [hmove]

/-- Settling loses no row. -/
theorem sourced_settled (stream : RowStream) : stream.settled.sourced = stream.sourced := by
  obtain ⟨-, hstay⟩ | ⟨hdrained, skipped, set, rest, hskipped, hpending, -, hmove⟩ :=
    stream.settled_cases
  · rw [hstay]
  · have hcurrent : stream.current.sourced = [] := by
      rw [Cursor.sourced, hdrained]
      rfl
    have hnothing : skipped.flatMap ResultSet.sourced = [] := by
      refine List.flatMap_eq_nil_iff.2 fun s hs => ?_
      rw [ResultSet.sourced, hskipped s hs]
      rfl
    rw [hmove, sourced, sourced, hpending, hcurrent, List.flatMap_append, hnothing]
    rfl

/-- A stream that settles at a set without rows has come to the last one. -/
theorem pending_settled_of_drained {stream : RowStream}
    (h : stream.settled.current.remaining = []) : stream.settled.pending = [] := by
  obtain ⟨hlast, hstay⟩ | ⟨-, skipped, set, rest, -, -, hlast, hmove⟩ := stream.settled_cases
  · rw [hstay] at h ⊢
    exact hlast h
  · rw [hmove] at h ⊢
    exact hlast h

/-- **A pull gives nothing when no row is left.** -/
theorem next_of_sourced_nil {stream : RowStream} (h : stream.sourced = []) :
    ∃ after, stream.next = (none, after) ∧ after.sourced = [] ∧ after.pulled = stream.pulled := by
  rw [next_eq, ← pulled_settled, ← h, ← sourced_settled]
  rw [← sourced_settled] at h
  revert h
  rcases stream.settled with ⟨⟨dataSource, n, _ | ⟨row, rows⟩⟩, pending, pulled⟩
  · intro _
    exact ⟨_, rfl, rfl, rfl⟩
  · intro h
    cases h

/-- **A pull gives the first row that is left** and no other. -/
theorem next_of_sourced_cons {stream : RowStream} {first : SourcedRow} {rest : List SourcedRow}
    (h : stream.sourced = first :: rest) :
    ∃ after, stream.next = (some first.row, after) ∧ after.sourced = rest ∧
      after.pulled = stream.pulled ++ [first.source] := by
  have hdrained : stream.settled.current.remaining = [] → stream.settled.pending = [] :=
    pending_settled_of_drained
  rw [next_eq, ← pulled_settled]
  rw [← sourced_settled] at h
  revert h hdrained
  rcases stream.settled with ⟨⟨dataSource, n, _ | ⟨row, rows⟩⟩, pending, pulled⟩
  · intro h hdrained
    obtain rfl : pending = [] := hdrained rfl
    cases h
  · intro h _
    obtain ⟨rfl, rfl⟩ := List.cons.inj h
    exact ⟨_, rfl, rfl, rfl⟩

/-- What the next pull gives, if anything is left. -/
theorem fst_next (stream : RowStream) :
    stream.next.1 = stream.sourced.head?.map SourcedRow.row := by
  rcases hleft : stream.sourced with _ | ⟨first, rest⟩
  · obtain ⟨after, hnext, -⟩ := next_of_sourced_nil hleft
    rw [hnext]
    rfl
  · obtain ⟨after, hnext, -⟩ := next_of_sourced_cons hleft
    rw [hnext]
    rfl

/-! ### Any number of pulls -/

/-- **Taking rows takes the first that are left,** and the backends give no others. -/
theorem take_eq (k : Nat) (stream : RowStream) :
    (stream.take k).1 = (stream.sourced.take k).map SourcedRow.row ∧
      (stream.take k).2.sourced = stream.sourced.drop k ∧
      (stream.take k).2.pulled =
        stream.pulled ++ (stream.sourced.take k).map SourcedRow.source := by
  induction k generalizing stream with
  | zero => simp [take]
  | succ k ih =>
    rw [take]
    rcases hleft : stream.sourced with _ | ⟨first, rest⟩
    · obtain ⟨after, hnext, hrest, hpulled⟩ := next_of_sourced_nil hleft
      rw [hnext]
      exact ⟨rfl, hrest, by simpa using hpulled⟩
    · obtain ⟨after, hnext, rfl, hpulled⟩ := next_of_sourced_cons hleft
      obtain ⟨hrows, hafter, hlog⟩ := ih after
      rw [hnext]
      refine ⟨congrArg (first.row :: ·) hrows, hafter, hlog.trans ?_⟩
      rw [hpulled, List.append_assoc, List.take_succ_cons, List.map_cons, List.singleton_append]

/-! ### Which sets have been asked -/

/-- Which of its sets a stream has asked, when so many rows have been wanted of it. -/
inductive Asked (sets : List ResultSet) (wanted : Nat) (stream : RowStream) : Prop where
  /-- It has asked none. -/
  | none (hpending : stream.pending = sets) (hdrained : stream.current.remaining = [])
    (hpulled : stream.pulled = [])
  /-- It has asked the sets up to one.  Those before it have nothing left, and that was not
  enough. -/
  | upTo (before : List ResultSet) (set : ResultSet) (given : List FetchedRow)
    (hsets : sets = before ++ set :: stream.pending)
    (hset : set.rows = given ++ stream.current.remaining)
    (hpulled : stream.pulled.length = (before.flatMap ResultSet.rows ++ given).length)
    (hwanted : (before.flatMap ResultSet.rows).length < wanted)

variable {sets : List ResultSet} {wanted : Nat} {stream : RowStream}

/-- Sets that may be asked when some rows are wanted may be asked when more of them are. -/
theorem Asked.mono (h : Asked sets wanted stream) {more : Nat} (hle : wanted ≤ more) :
    Asked sets more stream := by
  cases h with
  | none hpending hdrained hpulled => exact .none hpending hdrained hpulled
  | upTo before set given hsets hset hpulled hwanted =>
    exact .upTo before set given hsets hset hpulled (by omega)

/-- **A further row may be wanted of a further set** once all rows so far have been given. -/
theorem Asked.settled (h : Asked sets wanted stream) (hgiven : stream.pulled.length ≤ wanted) :
    Asked sets (wanted + 1) stream.settled := by
  obtain ⟨-, hstay⟩ | ⟨hdrained, skipped, last, rest, hskipped, hpending, -, hmove⟩ :=
    stream.settled_cases
  · rw [hstay]
    exact h.mono (Nat.le_succ _)
  · have hnothing : skipped.flatMap ResultSet.rows = [] := List.flatMap_eq_nil_iff.2 hskipped
    rw [hmove]
    cases h with
    | none hpending' _ hpulled =>
      refine .upTo skipped last [] (hpending'.symm.trans hpending) rfl ?_ ?_
      · rw [hpulled, hnothing]
        rfl
      · rw [hnothing]
        exact Nat.succ_pos _
    | upTo before set given hsets hset hpulled _ =>
      rw [hdrained, List.append_nil] at hset
      rw [← hset] at hpulled
      have hbefore : (before ++ set :: skipped).flatMap ResultSet.rows =
          before.flatMap ResultSet.rows ++ set.rows := by
        rw [List.flatMap_append, List.flatMap_cons, hnothing, List.append_nil]
      refine .upTo (before ++ set :: skipped) last [] ?_ rfl ?_ ?_
      · rw [hsets, hpending, List.append_assoc]
        rfl
      · rw [hbefore, List.append_nil, hpulled]
      · rw [hbefore]
        omega

/-- Giving a row asks no other set. -/
theorem Asked.give (h : Asked sets wanted stream) : Asked sets wanted stream.give.2 := by
  rw [RowStream.give]
  split
  · exact h
  · next row rows hrows =>
    cases h with
    | none _ hdrained _ =>
      rw [hdrained] at hrows
      cases hrows
    | upTo before set given hsets hset hpulled hwanted =>
      refine .upTo before set (given ++ [row]) hsets ?_ ?_ hwanted
      · rw [hset, hrows, List.append_assoc]
        rfl
      · rw [← List.append_assoc, List.length_append, List.length_append, hpulled]
        rfl

/-- Giving asks the backends for one row at most. -/
theorem length_pulled_give (stream : RowStream) :
    stream.give.2.pulled.length ≤ stream.pulled.length + 1 := by
  rw [RowStream.give]
  split
  · exact Nat.le_succ _
  · simp

/-- **Taking rows asks no set too early:** each row that is taken is one more that is wanted. -/
theorem asked_take (k : Nat) (h : Asked sets wanted stream)
    (hgiven : stream.pulled.length ≤ wanted) : Asked sets (wanted + k) (stream.take k).2 := by
  induction k generalizing stream wanted with
  | zero => exact h
  | succ k ih =>
    have hafter : Asked sets (wanted + 1) stream.next.2 := by
      rw [next_eq]
      exact (h.settled hgiven).give
    have hlog : stream.next.2.pulled.length ≤ wanted + 1 := by
      have hle := length_pulled_give stream.settled
      rw [pulled_settled] at hle
      rw [next_eq]
      omega
    rw [take]
    rcases hnext : stream.next with ⟨row | row, after⟩ <;> rw [hnext] at hafter hlog
    · exact hafter.mono (by omega)
    · have htake := ih hafter hlog
      rwa [Nat.add_assoc, Nat.add_comm 1] at htake

end RowStream

namespace QueryResponse

variable {response : QueryResponse} {after : RowStream} {k : Nat}

/-- The stream of a response has all of its rows left. -/
theorem sourced_stream (response : QueryResponse) :
    response.stream.sourced = response.sourced := rfl

/-- The data sources aside, the rows of a response are its rows. -/
theorem map_row_sourced (response : QueryResponse) :
    response.sourced.map SourcedRow.row = response.rows :=
  map_row_flatMap_sourced response.sets

/-- The rows that come first in a response, with their data sources and without. -/
theorem take_rows (response : QueryResponse) (k : Nat) :
    response.rows.take k = (response.sourced.take k).map SourcedRow.row := by
  rw [List.map_take, map_row_sourced]

/-- After some rows have been taken the next pull gives the row that follows. -/
theorem fst_next_of_drop (hleft : after.sourced = response.sourced.drop k) :
    after.next.1 = response.rows[k]? := by
  rw [RowStream.fst_next, hleft, List.head?_drop, ← map_row_sourced, List.getElem?_map]

/-- **The rows that were taken are those of the sets that have been asked,** but for the rows that
the last of these has left. -/
theorem take_rows_of_asked {before : List ResultSet} {set : ResultSet} {given : List FetchedRow}
    (hleft : after.sourced = response.sourced.drop k)
    (hsets : response.sets = before ++ set :: after.pending)
    (hset : set.rows = given ++ after.current.remaining) :
    response.rows.take k = before.flatMap ResultSet.rows ++ given := by
  have hdrop : response.rows.drop k =
      after.current.remaining ++ after.pending.flatMap ResultSet.rows := by
    rw [← map_row_sourced, ← List.map_drop, ← hleft, RowStream.sourced, List.map_append,
      Cursor.map_row_sourced, map_row_flatMap_sourced]
  have hrows : response.rows = before.flatMap ResultSet.rows ++ given ++ response.rows.drop k := by
    rw [hdrop, rows, hsets, List.flatMap_append, List.flatMap_cons, hset]
    simp only [List.append_assoc]
  exact List.append_cancel_right ((List.take_append_drop k response.rows).trans hrows)

/-- **The stream of a response is the concatenation of its result sets, pulled row by row.**  Taking
any number of rows gives the first rows of the concatenation; the backends have then given these
rows, in this order, and no others; and the next pull gives the row that follows, or ends the stream
after the last.  The sets that are no longer pending are those up to one: the sets before it have
nothing left, and they have fewer rows than are wanted. -/
theorem take_stream (response : QueryResponse) (k : Nat) :
    ∃ after, response.stream.take k = (response.rows.take k, after) ∧
      response.rows.take k = (response.sourced.take k).map SourcedRow.row ∧
      after.pulled = (response.sourced.take k).map SourcedRow.source ∧
      after.next.1 = response.rows[k]? ∧
      (after.pending = response.sets ∧ response.rows.take k = [] ∨
        ∃ before set given, response.sets = before ++ set :: after.pending ∧
          set.rows = given ++ after.current.remaining ∧
          response.rows.take k = before.flatMap ResultSet.rows ++ given ∧
          (before.flatMap ResultSet.rows).length < k) := by
  obtain ⟨hrows, hleft, hpulled⟩ := response.stream.take_eq k
  have hasked := RowStream.asked_take k (.none rfl rfl rfl : response.stream.Asked response.sets 0)
    (Nat.le_refl 0)
  rw [sourced_stream] at hrows hleft hpulled
  rw [Nat.zero_add] at hasked
  refine ⟨(response.stream.take k).2, ?_, response.take_rows k, hpulled, fst_next_of_drop hleft, ?_⟩
  · rw [take_rows, ← hrows]
  · cases hasked with
    | none hpending _ hnothing =>
      refine Or.inl ⟨hpending, ?_⟩
      rw [hnothing] at hpulled
      rw [take_rows, List.map_eq_nil_iff.1 hpulled.symm, List.map_nil]
    | upTo before set given hsets hset _ hwanted =>
      exact Or.inr
        ⟨before, set, given, hsets, hset, take_rows_of_asked hleft hsets hset, hwanted⟩

/-- A failed row is a row, and at the end of its set the next one has not been asked. -/
example : (stream ⟨[], [⟨"main", [.error (.fetch "gone")]⟩, ⟨"archive", [.ok []]⟩]⟩).take 1 =
    ([.error (.fetch "gone")],
      ⟨⟨"main", 1, []⟩, [⟨"archive", [.ok []]⟩], [("main", 0)]⟩) := rfl

end QueryResponse

end ShardProxy
