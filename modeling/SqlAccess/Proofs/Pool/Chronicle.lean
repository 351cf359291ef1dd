import SqlAccess.Proofs.Pool.Crowd
import SqlAccess.Proofs.Pool.Hygiene

/-
  This file reads the calls that a crowd has noted, with the
  latest one first: whose transaction is open on a
  connection, who made the last call there, and which calls
  a client has made and submitted.

  Key definitions include:
    * `Crowd.OpenOn`
    * `Crowd.latestOn`
    * `Crowd.Entry.Follows`
    * `Crowd.Orderly`
    * `Crowd.madeBy`
    * `Crowd.submittedBy`

  Key theorems include:
    * `Crowd.Holder.entries_of_apart`
    * `Crowd.Holder.worked_of_tracking`
    * `Crowd.OpenOn.of_append`
    * `Crowd.Orderly.extended`
    * `Crowd.Orderly.follows`
-/

namespace SqlAccess

variable {σ : Type}

/- A call that only asks to stop what runs. -/
def Call.isCancel : Call → Bool
  | cancel => true
  | _ => false

/-
  The calls in between are the last ones on a connection.
-/
theorem Database.Heard.callsOn_eq
    {id : Nat}
    {calls : List (Call × Fate)}
    {before after : Database σ}
    (hHeard : Database.Heard id calls before after) :
    after.callsOn id = before.callsOn id ++ calls := by
  rcases hHeard with ⟨events, hAfter, rfl⟩
  simp [Database.callsOn, hAfter]

/- What an errand calls for is done for its own sake. -/
theorem Errand.next_isCancel (errand : Errand) :
    errand.next.isCancel = false := by
  rcases errand with ⟨pending, aim⟩
  cases pending with
  | cons sql rest => rfl
  | nil =>
      cases aim with
      | run statement engagement => cases statement <;> rfl
      | _ => rfl

namespace Crowd

------------------------------------------------------------
-- Calls That Are Noted
------------------------------------------------------------

/- A call as the database knows it. -/
def Entry.made (entry : Entry) : Call × Fate :=
  (entry.call, entry.fate)

/-
  A call that is made for a client, at a place, in a part.
-/
structure Entry.IsBy
    (holder : Holder)
    (part : Part)
    (entry : Entry) : Prop where
  client : entry.client = holder.client
  target : entry.target = holder.conn.target
  part : entry.part = part
  id : entry.id = holder.conn.id

/-
  All calls on the connection of a client are noted as they
  were made, if there were no others.
-/
theorem Holder.entries_of_apart
    (holder : Holder)
    (part : Part)
    {before after : Database σ}
    {calls : List (Call × Fate)}
    (hApart : Database.Apart holder.conn.id before after)
    (hHeard :
      Database.Heard holder.conn.id calls before after) :
    (∀ entry ∈ holder.entries part before after,
      entry.IsBy holder part) ∧
      ((holder.entries part before after).map
        Entry.made).reverse = calls := by
  rcases hApart.calls with ⟨events, hHistory, hCalls⟩
  rcases hHeard with ⟨same, hSame, rfl⟩
  have hEvents : events = same := by
    rw [hHistory] at hSame
    exact List.append_cancel_right hSame
  subst hEvents
  have hEntries :
      holder.entries part before after =
        events.filterMap (holder.entry? part) := by
    simp [entries, hHistory]
  rw [hEntries, List.filterMap_reverse, List.reverse_inj]
  clear hHistory hSame hEntries
  induction events with
  | nil => exact ⟨List.forall_mem_nil _, rfl⟩
  | cons event rest ih =>
      rw [List.forall_mem_cons] at hCalls
      rcases hCalls with ⟨⟨call, fate, rfl⟩, hRest⟩
      rcases ih hRest with ⟨hBy, hMade⟩
      let entry : Entry :=
        ⟨holder.client, holder.conn.target, part,
          holder.conn.id, call, fate⟩
      have hEntry :
          holder.entry? part
            (.called holder.conn.id call fate) =
              some entry :=
        rfl
      have hCall :
          Event.callOn? holder.conn.id
              (.called holder.conn.id call fate) =
            some (call, fate) :=
        if_pos rfl
      rw [List.filterMap_cons_some hEntry,
        List.filterMap_cons_some hCall,
        List.forall_mem_cons, List.map_cons, hMade]
      exact ⟨⟨⟨rfl, rfl, rfl, rfl⟩, hBy⟩, rfl⟩

/-
  What has become of a database and of the connection of a
  client, after a part of a transaction.
-/
structure Holder.Worked
    (holder : Holder)
    (part : Part)
    (before after : Database σ)
    (used : Connection) : Prop where
  link : used.link = holder.conn.link
  apart : Database.Apart holder.conn.id before after
  own :
    ∀ entry ∈ holder.entries part before after,
      entry.IsBy holder part
  heard :
    Database.Heard holder.conn.id
      ((holder.entries part before after).map
        Entry.made).reverse before after
  tracks :
    holder.conn.Tracks part
      ((holder.entries part before after).map
        Entry.made).reverse used

/- What a use tracks is what its holder is noted for. -/
theorem Holder.worked_of_tracking
    (holder : Holder)
    {part : Part}
    {use : Use σ Activity}
    (hTracking : use.Tracking part)
    (db : Database σ) :
    let run := (use.run holder.conn).run db
    holder.Worked part db run.2 run.1.2 := by
  rcases hTracking.1 holder.conn db with ⟨hLink, hApart⟩
  rcases hTracking.2 holder.conn db with
    ⟨calls, hHeard, -, hTracks⟩
  rcases holder.entries_of_apart part hApart hHeard with
    ⟨hOwn, rfl⟩
  exact ⟨hLink, hApart, hOwn, hHeard, hTracks⟩

/- The calls on a connection that were noted, in order. -/
def callsIn
    (log : List Entry)
    (id : Nat) : List (Call × Fate) :=
  ((log.filter fun entry => entry.id = id).map
    Entry.made).reverse

/-
  What is noted of a part is what the database has heard.
-/
theorem Holder.Worked.callsIn_eq
    {holder : Holder}
    {part : Part}
    {before after : Database σ}
    {used : Connection}
    {log : List Entry}
    (hWorked : holder.Worked part before after used)
    {id : Nat}
    (hLog : before.callsOn id = callsIn log id) :
    after.callsOn id =
      callsIn (holder.entries part before after ++ log)
        id := by
  rw [callsIn, List.filter_append, List.map_append,
    List.reverse_append, ← callsIn, ← hLog]
  by_cases hId : id = holder.conn.id
  · subst hId
    rw [hWorked.heard.callsOn_eq, List.filter_eq_self.2]
    intro entry hEntry
    exact decide_eq_true (hWorked.own entry hEntry).id
  · rw [(hWorked.apart.others id hId).callsOn_eq,
      List.filter_eq_nil_iff.2]
    · rfl
    · intro entry hEntry hSame
      have hOwn := (hWorked.own entry hEntry).id
      exact hId ((of_decide_eq_true hSame).symm.trans hOwn)

------------------------------------------------------------
-- Open Transactions
------------------------------------------------------------

/-
  The transaction of a client has begun on a connection, and
  it has not ended there since.
-/
def OpenOn
    (id : Nat)
    (client : Client) : List Entry → Prop
  | [] => False
  | entry :: earlier =>
      entry.id = id ∧ entry.client = client ∧
        entry.Begins ∨
        (entry.id = id → ¬ entry.Ends) ∧
          OpenOn id client earlier

namespace OpenOn

variable {id : Nat} {client : Client} {log new : List Entry}

/- Where a transaction is open, calls were made. -/
theorem exists_entry
    (hOpen : OpenOn id client log) :
    ∃ entry ∈ log, entry.id = id := by
  induction log with
  | nil => cases hOpen
  | cons entry earlier ih =>
      rcases hOpen with ⟨hId, -, -⟩ | ⟨-, hEarlier⟩
      · exact ⟨entry, List.mem_cons_self, hId⟩
      · rcases ih hEarlier with ⟨other, hOther, hId⟩
        exact ⟨other, List.mem_cons_of_mem _ hOther,
          hId⟩

/- It has begun lately, or it was open and has not ended. -/
theorem of_append
    (hOpen : OpenOn id client (new ++ log)) :
    (∃ entry ∈ new, entry.id = id ∧ entry.Begins) ∨
      OpenOn id client log ∧
        ∀ entry ∈ new,
          entry.id = id → ¬ entry.Ends := by
  induction new with
  | nil => exact .inr ⟨hOpen, List.forall_mem_nil _⟩
  | cons entry rest ih =>
      rcases hOpen with
        ⟨hId, -, hBegins⟩ | ⟨hEnds, hRest⟩
      · exact .inl
          ⟨entry, List.mem_cons_self, hId, hBegins⟩
      · rcases ih hRest with
          ⟨other, hOther, hBegun⟩ | ⟨hLog, hNever⟩
        · exact .inl
            ⟨other, List.mem_cons_of_mem _ hOther,
              hBegun⟩
        · refine .inr ⟨hLog, ?_⟩
          rw [List.forall_mem_cons]
          exact ⟨hEnds, hNever⟩

/- Calls on other connections do not matter. -/
theorem of_append_other
    {place : Nat}
    (hOpen : OpenOn id client (new ++ log))
    (hNew : ∀ entry ∈ new, entry.id = place)
    (hOther : place ≠ id) :
    OpenOn id client log := by
  rcases hOpen.of_append with
    ⟨entry, hEntry, hId, -⟩ | ⟨hLog, -⟩
  · exact absurd ((hNew entry hEntry).symm.trans hId)
      hOther
  · exact hLog

end OpenOn

/- Where a transaction is open, the connection knows it. -/
theorem Holder.Worked.inside
    {holder : Holder}
    {part : Part}
    {before after : Database σ}
    {used : Connection}
    {client : Client}
    {log : List Entry}
    (hWorked : holder.Worked part before after used)
    (hInside :
      OpenOn holder.conn.id client log →
        holder.conn.inTransaction = true)
    (hOpen :
      OpenOn holder.conn.id client
        (holder.entries part before after ++ log)) :
    used.inTransaction = true := by
  have hMade :
      ∀ entry ∈ holder.entries part before after,
        entry.made ∈
          ((holder.entries part before after).map
            Entry.made).reverse := by
    intro entry hEntry
    rw [List.mem_reverse]
    exact List.mem_map_of_mem hEntry
  rcases hOpen.of_append with
    ⟨entry, hEntry, -, hBegins⟩ | ⟨hEarlier, hNever⟩
  · apply hWorked.tracks.begun
    refine ⟨entry.made, hMade entry hEntry, ?_⟩
    rw [← (hWorked.own entry hEntry).part]
    exact hBegins
  · apply hWorked.tracks.kept (hInside hEarlier)
    intro call hCall hEnds
    rw [List.mem_reverse, List.mem_map] at hCall
    rcases hCall with ⟨entry, hEntry, rfl⟩
    have hBy := hWorked.own entry hEntry
    apply hNever entry hEntry hBy.id
    rw [Entry.Ends, hBy.part]
    exact hEnds

------------------------------------------------------------
-- The Order of Calls
------------------------------------------------------------

/- The client who made the last call on a connection. -/
def latestOn
    (id : Nat)
    (log : List Entry) :
    Option Client :=
  (log.find? fun entry => entry.id = id).map Entry.client

/-
  A call keeps to the rules, given the earlier ones: it is
  made by the client whose transaction is open on the
  connection, if one is; all calls of a client are made on
  one connection, and the connection is that of the primary
  if the client has a transaction; and nobody else has made
  a call there since the client's last one.
-/
structure Entry.Follows
    (earlier : List Entry)
    (entry : Entry) : Prop where
  owner :
    ∀ client, OpenOn entry.id client earlier →
      client = entry.client
  primary :
    entry.client.purpose = .transaction →
      entry.target = .primary
  same :
    ∀ other ∈ earlier, other.client = entry.client →
      other.id = entry.id ∧ other.target = entry.target
  next :
    ∀ other ∈ earlier, other.client = entry.client →
      latestOn entry.id earlier = some entry.client

/- All calls keep to the rules. -/
def Orderly : List Entry → Prop
  | [] => True
  | entry :: earlier =>
      entry.Follows earlier ∧ Orderly earlier

/- Every call among all of them does so. -/
theorem Orderly.follows
    {log after earlier : List Entry}
    {entry : Entry}
    (hOrderly : Orderly log)
    (hLog : log = after ++ entry :: earlier) :
    entry.Follows earlier := by
  subst hLog
  induction after with
  | nil => exact hOrderly.1
  | cons other rest ih => exact ih hOrderly.2

/-
  What a client may rely on who has a connection: no other
  client has a transaction open there, and the client's own
  calls were made there, nobody else's since.
-/
structure Rules
    (holder : Holder)
    (log : List Entry) : Prop where
  owner :
    ∀ client, OpenOn holder.conn.id client log →
      client = holder.client
  same :
    ∀ entry ∈ log, entry.client = holder.client →
      entry.id = holder.conn.id ∧
        entry.target = holder.conn.target
  latest :
    ∀ entry ∈ log, entry.client = holder.client →
      latestOn holder.conn.id log = some holder.client

/-
  The rules are about a client, a place and a connection.
-/
theorem Rules.congr
    {holder other : Holder}
    {log : List Entry}
    (hRules : Rules holder log)
    (hClient : other.client = holder.client)
    (hLink : other.conn.link = holder.conn.link)
    (hTarget : other.conn.target = holder.conn.target) :
    Rules other log := by
  have hId : other.conn.id = holder.conn.id :=
    congrArg Link.id hLink
  refine ⟨?_, ?_, ?_⟩
  · rw [hClient, hId]
    exact hRules.owner
  · rw [hClient, hId, hTarget]
    exact hRules.same
  · rw [hClient, hId]
    exact hRules.latest

/- Further calls of the client keep to the rules. -/
theorem Orderly.extended
    {holder : Holder}
    {part : Part}
    {log new : List Entry}
    (hOrderly : Orderly log)
    (hRules : Rules holder log)
    (hPrimary :
      holder.client.purpose = .transaction →
        holder.conn.target = .primary)
    (hNew : ∀ entry ∈ new, entry.IsBy holder part) :
    Orderly (new ++ log) ∧ Rules holder (new ++ log) := by
  induction new with
  | nil => exact ⟨hOrderly, hRules⟩
  | cons entry rest ih =>
      rw [List.forall_mem_cons] at hNew
      rcases hNew with
        ⟨⟨hClient, hTarget, -, hId⟩, hRest⟩
      rcases ih hRest with ⟨hLater, hLast⟩
      refine ⟨⟨⟨?_, ?_, ?_, ?_⟩, hLater⟩,
        ⟨?_, ?_, ?_⟩⟩
      · rw [hId, hClient]
        exact hLast.owner
      · rw [hClient, hTarget]
        exact hPrimary
      · rw [hClient, hId, hTarget]
        exact hLast.same
      · rw [hClient, hId]
        exact hLast.latest
      · rintro client (⟨-, hSame, -⟩ | ⟨-, hOpen⟩)
        · rw [← hSame, hClient]
        · exact hLast.owner client hOpen
      · intro other hOther hOwn
        rcases List.mem_cons.1 hOther with rfl | hEarlier
        · exact ⟨hId, hTarget⟩
        · exact hLast.same other hEarlier hOwn
      · intro _ _ _
        rw [latestOn, List.cons_append,
          List.find?_cons_of_pos (by simpa using hId)]
        exact congrArg some hClient

/- Calls of others on other connections do not matter. -/
theorem Rules.extended_other
    {holder other : Holder}
    {part : Part}
    {log new : List Entry}
    (hRules : Rules other log)
    (hNew : ∀ entry ∈ new, entry.IsBy holder part)
    (hClient : holder.client ≠ other.client)
    (hConn : holder.conn.id ≠ other.conn.id) :
    Rules other (new ++ log) := by
  have hIds :
      ∀ entry ∈ new, entry.id = holder.conn.id :=
    fun entry hEntry => (hNew entry hEntry).id
  have hOld :
      ∀ entry ∈ new ++ log,
        entry.client = other.client →
        entry ∈ log := by
    intro entry hEntry hOwn
    rcases List.mem_append.1 hEntry with hHere | hLog
    · have hBy := (hNew entry hHere).client
      exact absurd (hBy.symm.trans hOwn) hClient
    · exact hLog
  refine ⟨?_, ?_, ?_⟩
  · intro client hOpen
    exact hRules.owner client
      (hOpen.of_append_other hIds hConn)
  · intro entry hEntry hOwn
    exact hRules.same entry (hOld entry hEntry hOwn) hOwn
  · intro entry hEntry hOwn
    have hLatest :=
      hRules.latest entry (hOld entry hEntry hOwn) hOwn
    have hNone :
        (new.find? fun entry => entry.id = other.conn.id) =
          none := by
      rw [List.find?_eq_none]
      intro entry hEntry
      simp [hIds entry hEntry, hConn]
    rw [latestOn, List.find?_append, hNone, Option.none_or]
    exact hLatest

------------------------------------------------------------
-- Calls in Turn
------------------------------------------------------------

/-
  The calls of a client, apart from those to stop what runs.
-/
def madeBy
    (client : Client)
    (log : List Entry) :
    List Call :=
  (log.filter fun entry =>
    entry.client = client &&
      !entry.call.isCancel).map Entry.call

/- The calls that a client has submitted. -/
def submittedBy
    (client : Client)
    (submitted : List (Client × Call)) : List Call :=
  (submitted.filter fun entry => entry.1 = client).map
    Prod.snd

section Turns

variable {holder : Holder}
variable {part : Part}
variable {log new : List Entry}

/- Calls of others are not the client's own. -/
theorem madeBy_other
    {client : Client}
    (hNew : ∀ entry ∈ new, entry.IsBy holder part)
    (hOther : holder.client ≠ client) :
    madeBy client (new ++ log) = madeBy client log := by
  have hNone :
      (new.filter fun entry =>
        entry.client = client &&
          !entry.call.isCancel) = [] := by
    rw [List.filter_eq_nil_iff]
    intro entry hEntry
    simp [(hNew entry hEntry).client, hOther]
  rw [madeBy, List.filter_append, hNone]
  rfl

/- A call is made, with a request to stop it at most. -/
theorem madeBy_sent
    {call : Call}
    {calls : List (Call × Fate)}
    {ok : Bool}
    (hNew : ∀ entry ∈ new, entry.IsBy holder part)
    (hMade : (new.map Entry.made).reverse = calls)
    (hSent : Use.Sent call calls ok)
    (hCall : call.isCancel = false) :
    madeBy holder.client (new ++ log) =
      call :: madeBy holder.client log := by
  have hSplit :
      ∃ fate cancels, calls = (call, fate) :: cancels ∧
        Use.OnlyCancels cancels := by
    cases hSent with
    | answered =>
        exact ⟨.done, [], rfl, Use.onlyCancels_nil⟩
    | @failed fate cancels _ hCancels =>
        exact ⟨fate, cancels, rfl, hCancels⟩
  rcases hSplit with ⟨fate, cancels, rfl, hCancels⟩
  rw [List.reverse_eq_iff, List.reverse_cons,
    List.map_eq_append_iff] at hMade
  rcases hMade with ⟨late, first, rfl, hLate, hFirst⟩
  rw [List.map_eq_singleton_iff] at hFirst
  rcases hFirst with ⟨entry, rfl, hEntry⟩
  have hLateNone :
      (late.filter fun entry =>
        entry.client = holder.client &&
          !entry.call.isCancel) =
        [] := by
    rw [List.filter_eq_nil_iff]
    intro other hOther
    have hCancel : other.made ∈ cancels := by
      rw [← List.mem_reverse, ← hLate]
      exact List.mem_map_of_mem hOther
    have hOnly : other.call = .cancel := hCancels _ hCancel
    simp [hOnly, Call.isCancel]
  have hClient : entry.client = holder.client :=
    (hNew entry (by simp)).client
  have hSame : entry.call = call := congrArg Prod.fst hEntry
  rw [madeBy, List.append_assoc, List.filter_append,
    hLateNone]
  simp [hClient, hSame, hCall, madeBy]

/- What a client submits comes on top of its calls. -/
theorem submittedBy_own
    (client : Client)
    (calls : List Call)
    (submitted : List (Client × Call)) :
    submittedBy client
      (calls.map (client, ·) ++ submitted) =
      calls ++ submittedBy client submitted := by
  rw [submittedBy, List.filter_append,
    List.filter_eq_self.2]
  · simp [submittedBy, Function.comp_def]
  · simp

/- What others submit is not among a client's calls. -/
theorem submittedBy_other
    {client other : Client}
    (hOther : other ≠ client)
    (calls : List Call)
    (submitted : List (Client × Call)) :
    submittedBy client
      (calls.map (other, ·) ++ submitted) =
      submittedBy client submitted := by
  rw [submittedBy, List.filter_append,
    List.filter_eq_nil_iff.2]
  · rfl
  · simp [hOther]

end Turns

end Crowd

end SqlAccess
