import SqlAccess.Proofs.Transaction.Session

/-
  This file defines how a database system carries out the
  calls of a transaction: it keeps the work since the
  transaction began in a log with savepoints in it.  A call
  that is not answered changes nothing.

  Key definitions include:
    * `Command.ofText?`
    * `Call.commands?`
    * `Work`
    * `Log.release`
    * `Log.rollbackTo`
    * `Log.surviving`
    * `Server`
    * `Server.replay`

  Key theorems include:
    * `Command.ofText?_undoSql`
    * `Log.rollbackTo_split`
    * `Log.release_split`
    * `Log.surviving_append_of_lost`
    * `Log.surviving_append_of_kept`
-/

namespace SqlAccess

------------------------------------------------------------
-- Commands
------------------------------------------------------------

/- What a database system is told about a transaction. -/
inductive Command
  | begin
  | savepoint (name : String)
  | release (name : String)
  | rollbackTo (name : String)
  | commit
  | rollback
deriving DecidableEq, Repr

namespace Command

/- The name that follows some words. -/
def nameAfter?
    (words : String)
    (text : List Char) : Option String :=
  if words.toList.isPrefixOf text then
    some (String.ofList (text.drop words.toList.length))
  else
    none

/- The command that a text is, if it is one. -/
def read? (text : List Char) : Option Command :=
  if text = "BEGIN".toList then some begin
  else if text = "COMMIT".toList then some commit
  else if text = "ROLLBACK".toList then some rollback
  else
    (nameAfter? "SAVEPOINT " text).map savepoint <|>
      (nameAfter? "RELEASE SAVEPOINT " text).map release <|>
      (nameAfter? "ROLLBACK TO SAVEPOINT " text).map
        rollbackTo

/- The parts of a text between semicolons with a blank. -/
def parts : List Char → List (List Char)
  | [] => [[]]
  | ';' :: ' ' :: rest => [] :: parts rest
  | c :: rest =>
      match parts rest with
      | [] => [[c]]
      | part :: more => (c :: part) :: more

/- The commands of a text that consists of commands. -/
def ofText? (text : String) : Option (List Command) :=
  (parts text.toList).mapM read?

end Command

/- The name of the savepoint of a number. -/
def savepointName (number : Nat) : String :=
  "sqlweave_sp_" ++ toString number

/- Savepoints of other numbers have other names. -/
theorem savepointName_injective {m n : Nat}
    (hName : savepointName m = savepointName n) :
    m = n := by
  have hDigits : Nat.toDigits 10 m = Nat.toDigits 10 n := by
    have hChars := congrArg String.toList hName
    simpa [savepointName] using hChars
  have hNumber :=
    congrArg (Nat.ofDigitChars 10 · 0) hDigits
  simpa using hNumber

/- A savepoint name holds no semicolon. -/
theorem semicolon_notMem_savepointName (number : Nat) :
    ';' ∉ (savepointName number).toList := by
  intro hMem
  simp only [savepointName, String.toList_append,
    List.mem_append] at hMem
  rcases hMem with hLead | hDigits
  · exact absurd hLead (by decide)
  · rw [Nat.toString_eq_ofList_toDigits,
      String.toList_ofList] at hDigits
    exact absurd
      (Nat.isDigit_of_mem_toDigits (by decide) (by decide)
        hDigits) (by decide)

namespace Command

/- A text without a semicolon is one statement. -/
theorem parts_eq_singleton
    {text : List Char}
    (hText : ';' ∉ text) : parts text = [text] := by
  induction text with
  | nil => rfl
  | cons c rest ih =>
      rw [List.mem_cons, not_or] at hText
      rw [parts, ih hText.2]
      rintro _ rfl
      exact absurd rfl hText.1

/- A semicolon parts two statements. -/
theorem parts_append
    {text : List Char}
    (rest : List Char)
    (hText : ';' ∉ text) :
    parts (text ++ ';' :: ' ' :: rest) =
      text :: parts rest := by
  induction text with
  | nil => rfl
  | cons c more ih =>
      rw [List.mem_cons, not_or] at hText
      rw [List.cons_append, parts, ih hText.2]
      rintro _ rfl
      exact absurd rfl hText.1

/- A savepoint is read with its name. -/
theorem read?_savepoint (name : String) :
    read? ("SAVEPOINT " ++ name).toList =
      some (savepoint name) := by
  simp [read?, nameAfter?]

/- A release is read with its name. -/
theorem read?_release (name : String) :
    read? ("RELEASE SAVEPOINT " ++ name).toList =
      some (release name) := by
  simp [read?, nameAfter?]

/- A rollback to a savepoint is read with its name. -/
theorem read?_rollbackTo (name : String) :
    read? ("ROLLBACK TO SAVEPOINT " ++ name).toList =
      some (rollbackTo name) := by
  simp [read?, nameAfter?]

/- One statement is one command. -/
theorem ofText?_eq_singleton
    {text : String}
    {command : Command}
    (hText : ';' ∉ text.toList)
    (hRead : read? text.toList = some command) :
    ofText? text = some [command] := by
  simp [ofText?, parts_eq_singleton hText, hRead]

section NamedCommands

variable {name : String} (hName : ';' ∉ name.toList)
include hName

/- A name without a semicolon adds none. -/
private theorem semicolon_notMem_append
    (words : String)
    (hWords : ';' ∉ words.toList) :
    ';' ∉ (words ++ name).toList := by
  rw [String.toList_append, List.mem_append, not_or]
  exact ⟨hWords, hName⟩

/- What sets a savepoint is read as that. -/
theorem ofText?_savepointSql :
    ofText? (Scope.savepointSql name) =
      some [savepoint name] :=
  ofText?_eq_singleton
    (semicolon_notMem_append hName _ (by decide))
    (read?_savepoint name)

/- What releases a savepoint is read as that. -/
theorem ofText?_releaseSql :
    ofText? (Scope.releaseSql name) = some [release name] :=
  ofText?_eq_singleton
    (semicolon_notMem_append hName _ (by decide))
    (read?_release name)

/- What undoes a scope is two statements. -/
private theorem parts_undoSql :
    parts (Scope.undoSql name).toList =
      [("ROLLBACK TO SAVEPOINT " ++ name).toList,
        (Scope.releaseSql name).toList] := by
  have hText :
      (Scope.undoSql name).toList =
        ("ROLLBACK TO SAVEPOINT " ++ name).toList ++
          ';' :: ' ' :: (Scope.releaseSql name).toList := by
    unfold Scope.undoSql
    simp only [String.toList_append, List.append_assoc]
    rfl
  have hFirst :=
    semicolon_notMem_append hName "ROLLBACK TO SAVEPOINT "
      (by decide)
  have hSecond :=
    semicolon_notMem_append hName "RELEASE SAVEPOINT "
      (by decide)
  have hLater :
      parts (Scope.releaseSql name).toList =
        [(Scope.releaseSql name).toList] :=
    parts_eq_singleton hSecond
  simp only [hText, parts_append _ hFirst, hLater]

/-
  What undoes a scope goes back to its savepoint and
  releases it.
-/
theorem ofText?_undoSql :
    ofText? (Scope.undoSql name) =
      some [rollbackTo name, release name] := by
  have hLater :
      read? (Scope.releaseSql name).toList =
        some (release name) :=
    read?_release name
  simp only [ofText?, parts_undoSql hName, List.mapM_cons,
    List.mapM_nil, read?_rollbackTo, hLater]
  rfl

end NamedCommands

@[simp] theorem ofText?_commit :
    ofText? "COMMIT" = some [commit] := by
  decide

@[simp] theorem ofText?_rollback :
    ofText? "ROLLBACK" = some [rollback] := by
  decide

end Command

------------------------------------------------------------
-- Logs
------------------------------------------------------------

/-
  A statement that was carried out: the call and its number.
-/
structure Work where
  number : Nat
  call : Call

/- Something that happened since a transaction began. -/
inductive LogEntry
  | savepoint (name : String)
  | work (work : Work)

/- A log, with the latest entry first. -/
abbrev Log := List LogEntry

namespace Log

/- The work in a log, in the order in which it was done. -/
def works : Log → List Work
  | [] => []
  | .work work :: log => works log ++ [work]
  | .savepoint _ :: log => works log

/- The savepoints of a log, the latest one first. -/
def savepoints : Log → List String
  | [] => []
  | .work _ :: log => savepoints log
  | .savepoint name :: log => name :: savepoints log

/-
  Forget the latest savepoint of a name and those after it,
  and keep the work.
-/
def release (name : String) : Log → Log
  | [] => []
  | .work work :: log => .work work :: release name log
  | .savepoint other :: log =>
      if other = name then log else release name log

/- Go back to the latest savepoint of a name. -/
def rollbackTo (name : String) : Log → Log
  | [] => []
  | .work _ :: log => rollbackTo name log
  | .savepoint other :: log =>
      if other = name then .savepoint other :: log
      else rollbackTo name log

/-
  The work in a log that stays if the work since some of the
  savepoints is going to be lost.
-/
def surviving (lost : String → Bool) : Log → List Work
  | [] => []
  | .work work :: log =>
      if (savepoints log).any lost then surviving lost log
      else surviving lost log ++ [work]
  | .savepoint _ :: log => surviving lost log

attribute [simp] works savepoints release rollbackTo
  surviving

/- The savepoints above come first. -/
@[simp] theorem savepoints_append (above below : Log) :
    savepoints (above ++ below) =
      savepoints above ++ savepoints below := by
  induction above with
  | nil => rfl
  | cons entry above ih =>
      cases entry with
      | work work => simpa using ih
      | savepoint name => simpa using ih

/- The latest savepoint of a name splits the log. -/
theorem exists_split
    {name : String}
    {log : Log}
    (hName : name ∈ savepoints log) :
    ∃ above below : Log,
      log = above ++ .savepoint name :: below ∧
        name ∉ savepoints above := by
  induction log with
  | nil => simp at hName
  | cons entry log ih =>
      cases entry with
      | work work =>
          rcases ih hName with
            ⟨above, below, rfl, hAbove⟩
          exact ⟨.work work :: above, below, rfl,
            hAbove⟩
      | savepoint other =>
          by_cases hOther : other = name
          · subst hOther
            exact ⟨[], log, rfl, by simp⟩
          · have hLog : name ∈ savepoints log := by
              have hOther' : name ≠ other :=
                Ne.symm hOther
              simpa [hOther'] using hName
            rcases ih hLog with
              ⟨above, below, rfl, hAbove⟩
            refine
              ⟨.savepoint other :: above, below,
                rfl, ?_⟩
            simp [hAbove, Ne.symm hOther]

/- The entries of works. -/
def ofWorks (works : List Work) : Log :=
  (works.map .work).reverse

/-
  A name that is not above is neither the top nor below it.
-/
private theorem notMem_of_notMem_cons
    {name other : String}
    {above : Log}
    (hAbove :
      name ∉ savepoints (.savepoint other :: above)) :
    other ≠ name ∧ name ∉ savepoints above := by
  rw [savepoints, List.mem_cons, not_or] at hAbove
  exact ⟨Ne.symm hAbove.1, hAbove.2⟩

/- To go back to a savepoint drops what is above it. -/
theorem rollbackTo_split
    {name : String}
    {above : Log}
    (below : Log)
    (hAbove : name ∉ savepoints above) :
    rollbackTo name (above ++ .savepoint name :: below) =
      .savepoint name :: below := by
  induction above with
  | nil => simp
  | cons entry above ih =>
      cases entry with
      | work work => exact ih hAbove
      | savepoint other =>
          rcases notMem_of_notMem_cons hAbove with
            ⟨hOther, hRest⟩
          simpa [hOther] using ih hRest

/- To release a savepoint keeps the work above it. -/
theorem release_split
    {name : String}
    {above : Log}
    (below : Log)
    (hAbove : name ∉ savepoints above) :
    release name (above ++ .savepoint name :: below) =
      ofWorks (works above) ++ below := by
  induction above with
  | nil => simp [ofWorks]
  | cons entry above ih =>
      cases entry with
      | work work =>
          simpa [ofWorks] using ih hAbove
      | savepoint other =>
          rcases notMem_of_notMem_cons hAbove with
            ⟨hOther, hRest⟩
          simpa [hOther] using ih hRest

/- The work below was done first. -/
@[simp] theorem works_append (above below : Log) :
    works (above ++ below) =
      works below ++ works above := by
  induction above with
  | nil => simp
  | cons entry above ih =>
      cases entry <;> simp [ih]

@[simp] theorem savepoints_ofWorks (done : List Work) :
    savepoints (ofWorks done) = [] := by
  induction done with
  | nil => rfl
  | cons work done ih =>
      have hCons :
          ofWorks (work :: done) =
            ofWorks done ++ [.work work] := by
        simp [ofWorks]
      simp [hCons, ih]

@[simp] theorem works_ofWorks (done : List Work) :
    works (ofWorks done) = done := by
  induction done with
  | nil => rfl
  | cons work done ih =>
      have hCons :
          ofWorks (work :: done) =
            ofWorks done ++ [.work work] := by
        simp [ofWorks]
      simp [hCons, ih]

section Surviving

variable {lost other : String → Bool}

/- Nothing is lost where no savepoint is. -/
theorem surviving_eq_works
    {log : Log}
    (hKept :
      ∀ name ∈ savepoints log, lost name = false) :
    surviving lost log = works log := by
  induction log with
  | nil => rfl
  | cons entry log ih =>
      cases entry with
      | work work =>
          have hNone : (savepoints log).any lost = false :=
            List.any_eq_false.mpr fun name hMem => by
              simpa using hKept name hMem
          simp [hNone, ih hKept]
      | savepoint name =>
          apply ih
          intro earlier hMem
          exact hKept earlier
            (List.mem_cons_of_mem name hMem)

/- Only the savepoints in the log count. -/
theorem surviving_congr
    {log : Log}
    (hSame :
      ∀ name ∈ savepoints log, lost name = other name) :
    surviving lost log = surviving other log := by
  induction log with
  | nil => rfl
  | cons entry log ih =>
      cases entry with
      | work work =>
          have hAny :
              (savepoints log).any lost =
                (savepoints log).any other := by
            rw [Bool.eq_iff_iff, List.any_eq_true,
              List.any_eq_true]
            constructor
            · rintro ⟨name, hMem, hLost⟩
              exact ⟨name, hMem,
                by rwa [← hSame name hMem]⟩
            · rintro ⟨name, hMem, hLost⟩
              exact ⟨name, hMem,
                by rwa [hSame name hMem]⟩
          simp only [surviving, hAny, ih hSame]
      | savepoint name =>
          apply ih
          intro earlier hMem
          exact hSame earlier
            (List.mem_cons_of_mem name hMem)

/- A lost savepoint takes all work above it along. -/
theorem surviving_append_of_lost
    (above : Log)
    {below : Log}
    (hLost : (savepoints below).any lost = true) :
    surviving lost (above ++ below) =
      surviving lost below := by
  induction above with
  | nil => rfl
  | cons entry above ih =>
      cases entry with
      | work work => simpa [hLost] using ih
      | savepoint name => simpa using ih

/-
  Where nothing below is lost, what survives is put together
  from both parts.
-/
theorem surviving_append_of_kept
    (above : Log)
    {below : Log}
    (hKept : (savepoints below).any lost = false) :
    surviving lost (above ++ below) =
      surviving lost below ++ surviving lost above := by
  induction above with
  | nil => simp
  | cons entry above ih =>
      cases entry with
      | work work =>
          by_cases hAbove : (savepoints above).any lost
          · simpa [hKept, hAbove] using ih
          · simp [hKept, hAbove, ih]
      | savepoint name => simpa using ih

end Surviving

end Log

------------------------------------------------------------
-- Servers
------------------------------------------------------------

/-
  What a database system keeps for a connection: the work
  that will never be lost, and the log of the transaction
  that is open, if there is one.
-/
structure Server where
  durable : List Work
  log : Option Log

/- Whether a call runs a statement. -/
def Call.isStatement : Call → Bool
  | batch _ => true
  | select _ => true
  | dml _ => true
  | ping => false
  | cancel => false

/- The commands that a call consists of, if it does. -/
def Call.commands? (call : Call) : Option (List Command) :=
  if call.isStatement then
    Command.ofText? call.sql
  else
    none

namespace Call

theorem commands?_batch (sql : String) :
    (batch sql).commands? = Command.ofText? sql :=
  rfl

@[simp] theorem commands?_cancel :
  cancel.commands? = none :=
  rfl

@[simp] theorem commands?_commit :
    (batch "COMMIT").commands? = some [.commit] :=
  Command.ofText?_commit

@[simp] theorem commands?_rollback :
    (batch "ROLLBACK").commands? = some [.rollback] :=
  Command.ofText?_rollback

end Call

/- Whether a call is about the transaction itself. -/
def Call.isControl (call : Call) : Bool :=
  call.commands?.isSome

/- Whether a call runs a statement that is not. -/
def Call.isOrdinary (call : Call) : Bool :=
  call.isStatement && !call.isControl

namespace Server

/- A connection whose transaction has just begun. -/
def begun : Server := ⟨[], some []⟩

/- All work that a statement sees. -/
def visible (server : Server) : List Work :=
  server.durable ++ Log.works (server.log.getD [])

/- Change a log if it has a savepoint of a name. -/
def atSavepoint
    (server : Server)
    (name : String)
    (change : Log → Log) : Server :=
  { server with
    log := server.log.map fun log =>
      if name ∈ Log.savepoints log then change log
        else log }

/- Obey a command. -/
def obey (server : Server) : Command → Server
  | .begin =>
      { server with log := some (server.log.getD []) }
  | .savepoint name =>
      { server with
        log := server.log.map (.savepoint name :: ·) }
  | .release name =>
      server.atSavepoint name (Log.release name)
  | .rollbackTo name =>
      server.atSavepoint name (Log.rollbackTo name)
  | .commit => ⟨server.visible, none⟩
  | .rollback => { server with log := none }

/-
  Do work, which is durable at once outside a transaction.
-/
def carryOut (server : Server) (work : Work) : Server :=
  match server.log with
  | some log =>
      { server with log := some (.work work :: log) }
  | none =>
      { server with durable := server.durable ++ [work] }

/- Answer a call. -/
def answer (server : Server) (work : Work) : Server :=
  match work.call.commands? with
  | some commands => commands.foldl obey server
  | none =>
      if work.call.isStatement then server.carryOut work
      else server

/- Take notice of an item: only answered calls count. -/
def hear (server : Server) : Session.Item → Server
  | .called number call .done =>
      server.answer ⟨number, call⟩
  | _ => server

/- Go through a timeline. -/
def replay
    (server : Server)
    (items : List Session.Item) : Server :=
  items.foldl hear server

end Server

end SqlAccess
