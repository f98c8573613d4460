import DataLayer.Proofs.Keyed
import DataLayer.Proofs.Outcomes
import DataLayer.Proofs.Snapshot.Answers
import DataLayer.Proofs.Text.Words
import Mathlib.Data.List.Nodup

/-!
# Whose sample a procedure gets

A procedure is sampled by a batch that carries its name. The snapshot reads the name back from the
batch, which succeeds where neither white space nor a dot interferes, and looks for it ignoring
letter case. The sample is that of the last procedure whose name agrees so: the procedure itself
unless a later name differs from its name in letter case only.
-/

namespace DataLayer

open Introspection Reading Text

/-- A batch carries the name of the procedure as it is. White space before the schema is skipped,
and dots of the schema do not matter. -/
def Settings.Addresses (settings : Settings) (name : String) : Prop :=
  Solid (dropStart isBlank settings.catalogSchema) ∧ Solid name ∧ '.' ∉ name.toList

/-- A name without dots is what comes after the last dot. -/
theorem SnapshotCatalog.lastPart_append (schema : String) {name : String}
    (undotted : '.' ∉ name.toList) : lastPart (schema ++ "." ++ name) = name := by
  have free : ∀ c ∈ name.toList, (c == '.') = false := by
    intro c member
    exact beq_eq_false_iff_ne.mpr fun equal => undotted (equal ▸ member)
  rw [lastPart, pieces_append rfl (by decide), pieces_of_free free, List.getLast?_concat,
    Option.getD_some]

/-- The batch of a procedure has the words `exec` and `schema.name` before its arguments. -/
theorem Introspection.words_sampleBatch {settings : Settings} {procedure : Procedure}
    (addressed : settings.Addresses procedure.name) (withArguments : Bool) :
    ∃ arguments, words (sampleBatch settings.catalogSchema procedure withArguments) =
      "exec" :: (dropStart isBlank settings.catalogSchema ++ "." ++ procedure.name) ::
        arguments := by
  obtain ⟨solidSchema, solidName, -⟩ := addressed
  have target : words (settings.catalogSchema ++ "." ++ procedure.name) =
      [dropStart isBlank settings.catalogSchema ++ "." ++ procedure.name] := by
    have dotted : ("." ++ procedure.name).toList = '.' :: procedure.name.toList := by
      rw [String.toList_append]
      rfl
    have visible : dropStart isBlank settings.catalogSchema ++ "." ++ procedure.name ≠ "" := by
      simp
    have dot : Solid "." := by decide
    -- The dot is visible, so what is skipped in front ends within the schema.
    rw [← words_dropStart, String.append_assoc, dropStart_append dotted (by decide),
      ← String.append_assoc]
    exact words_of_solid ((solidSchema.append dot).append solidName) visible
  have verb (rest : String) : words ("exec " ++ rest) = "exec" :: words rest := by
    rw [show "exec " = "exec" ++ " " by decide, words_append]
    rfl
  unfold sampleBatch
  rw [String.append_assoc, String.append_assoc, String.append_assoc, verb, ← String.append_assoc,
    ← String.append_assoc]
  split
  · refine ⟨words (joinWith ", " (procedure.parameters.map sampleArgument)), ?_⟩
    rw [← String.append_assoc, words_append, target]
    rfl
  · exact ⟨[], by rw [String.append_empty, target]⟩

/-- The batch that samples an addressed procedure is read as executing it. -/
theorem SnapshotCatalog.executedProcedure?_sampleBatch {settings : Settings} {procedure : Procedure}
    (addressed : settings.Addresses procedure.name) (withArguments : Bool) :
    executedProcedure? (sampleBatch settings.catalogSchema procedure withArguments) =
      some procedure.name := by
  obtain ⟨arguments, split⟩ := words_sampleBatch addressed withArguments
  rw [executedProcedure?, split]
  dsimp only
  rw [if_pos (by decide), lastPart_append _ addressed.2.2]

/-- The procedure whose sample is found under a name: of those whose names agree with it up to
letter case, the last one. -/
def Snapshot.sampleSource? (snapshot : Snapshot) (name : String) : Option SnapshotProcedure :=
  snapshot.procedures.reverse.find? fun procedure => lower procedure.name = lower name

/-- The sample that a snapshot gives a procedure. -/
def SnapshotProcedure.ownSample (procedure : SnapshotProcedure) : Option ResultShape :=
  if procedure.sampleError = none then some (procedure.sample.getD {}) else none

/-- What the sampling of a procedure gives is its own sample. -/
theorem SnapshotProcedure.toOption_outcome (procedure : SnapshotProcedure) :
    procedure.outcome.toOption = procedure.ownSample := by
  unfold outcome ownSample
  cases procedure.sampleError <;> rfl

/-- A procedure has no source but itself when no other name agrees with its name up to letter
case. -/
theorem Snapshot.sampleSource?_of_single {snapshot : Snapshot} {procedure : SnapshotProcedure}
    (member : procedure ∈ snapshot.procedures)
    (single : ∀ other ∈ snapshot.procedures, lower other.name = lower procedure.name →
      other = procedure) :
    snapshot.sampleSource? procedure.name = some procedure := by
  refine Keyed.find?_reverse_of_single member (by simp) fun other among same => ?_
  exact single other among (of_decide_eq_true same)

namespace SnapshotCatalog

variable {settings : Settings} {snapshot : Snapshot}

/-- The outcome under a name is that of the procedure that gives the sample. -/
theorem get?_outcomes (snapshot : Snapshot) (name : String) :
    (ofSnapshot snapshot).outcomes.get? (lower name) =
      (snapshot.sampleSource? name).map SnapshotProcedure.outcome := by
  have found := Keyed.get?_ofList_keyed (fun procedure : SnapshotProcedure => lower procedure.name)
    SnapshotProcedure.outcome snapshot.procedures (lower name)
  rw [Snapshot.sampleSource?, ← found, ofSnapshot]

/-- The batch of a procedure is answered with the sample of its source. -/
theorem answer_sampleBatch {procedure : Procedure} (addressed : settings.Addresses procedure.name)
    (withArguments : Bool) :
    ((ofSnapshot snapshot).answer
      (sampleBatch settings.catalogSchema procedure withArguments)).toOption =
      (snapshot.sampleSource? procedure.name).bind SnapshotProcedure.ownSample := by
  unfold answer
  rw [executedProcedure?_sampleBatch addressed]
  dsimp only
  rw [get?_outcomes]
  cases snapshot.sampleSource? procedure.name with
  | none => rfl
  | some source =>
      rw [Option.map_some, Option.bind_some, ← source.toOption_outcome]
      cases source.outcome <;> rfl

section Distinct

variable (distinct : (snapshot.procedures.map (·.name)).Nodup)
include distinct

/-- With distinct names, all procedures are listed in their order. -/
theorem keys_procedures : (ofSnapshot snapshot).procedures.keys =
    snapshot.procedures.map (·.name) := by
  have keys := Keyed.keys_ofList_keyed SnapshotProcedure.name id snapshot.procedures
  exact keys.trans (Keyed.eraseDups_of_nodup distinct)

/-- With distinct names, every procedure is found under its name. -/
theorem procedure_ofSnapshot {procedure : SnapshotProcedure}
    (member : procedure ∈ snapshot.procedures) :
    (ofSnapshot snapshot).procedure procedure.name =
      match procedure.error with
      | some message => .error (.catalogItem procedure.name message)
      | none => .ok procedure := by
  have found : (ofSnapshot snapshot).procedures.get? procedure.name = some procedure := by
    have searched := Keyed.get?_ofList_keyed SnapshotProcedure.name id snapshot.procedures
      procedure.name
    have single := Keyed.find?_reverse_of_single member
      (decide_eq_true (Eq.refl procedure.name)) fun other among same =>
        List.inj_on_of_nodup_map distinct among member (of_decide_eq_true same)
    exact searched.trans (congrArg (Option.map id) single)
  unfold SnapshotCatalog.procedure
  cases readable : procedure.error with
  | some message => simp only [found, readable]
  | none => simp only [found, readable]

/-- With distinct names, every procedure is read with its own parameters and definition. -/
theorem readProcedure_ofSnapshot {procedure : SnapshotProcedure}
    (member : procedure ∈ snapshot.procedures) (readable : procedure.error = none) :
    (ofSnapshot snapshot).readProcedure settings procedure.name =
      (Parameter.ofInfos procedure.parameters).map fun parameters =>
        (ofSnapshot snapshot).sampled settings
          (declared settings procedure.name procedure parameters) := by
  rw [readProcedure, procedure_ofSnapshot distinct member, readable]

/-- Reading a procedure of the snapshot fails only on its parameters, unless it has an error of its
own. -/
theorem failure?_readProcedure {procedure : SnapshotProcedure}
    (member : procedure ∈ snapshot.procedures) :
    failure? ((ofSnapshot snapshot).readProcedure settings procedure.name) =
      if procedure.error = none then failure? (Parameter.ofInfos procedure.parameters)
      else none := by
  cases readable : procedure.error with
  | some message =>
      rw [readProcedure, procedure_ofSnapshot distinct member, readable]
      rfl
  | none =>
      rw [readProcedure_ofSnapshot distinct member readable, if_pos rfl]
      cases Parameter.ofInfos procedure.parameters <;> rfl

/-- A procedure that is to be sampled has the sample of its source. -/
theorem sample_of_readProcedure {procedure : SnapshotProcedure} {read : Procedure}
    (member : procedure ∈ snapshot.procedures) (readable : procedure.error = none)
    (returning : settings.returnsData procedure.name = true)
    (wanted : settings.wantsSample procedure.definition = true)
    (addressed : settings.Addresses procedure.name)
    (found : (ofSnapshot snapshot).readProcedure settings procedure.name = .ok read) :
    read.sample = (snapshot.sampleSource? procedure.name).bind SnapshotProcedure.ownSample := by
  rw [readProcedure_ofSnapshot distinct member readable] at found
  cases usable : Parameter.ofInfos procedure.parameters with
  | error failure =>
      rw [usable] at found
      cases found
  | ok parameters =>
      rw [usable] at found
      have equal : (ofSnapshot snapshot).sampled settings
          (declared settings procedure.name procedure parameters) = read := Except.ok.inj found
      have chosen :
          settings.samples (declared settings procedure.name procedure parameters) = true := by
        simp [Settings.samples, declared, returning, wanted]
      rw [← equal, SnapshotCatalog.sampled, if_pos chosen]
      exact answer_sampleBatch addressed settings.sampleWithArguments

end Distinct

/-- A procedure is read under the name it was asked for. -/
theorem name_of_readProcedure {catalog : SnapshotCatalog} {name : String} {read : Procedure}
    (found : catalog.readProcedure settings name = .ok read) : read.name = name := by
  unfold readProcedure at found
  split at found
  · cases found
    rfl
  · rename_i entry _
    cases usable : Parameter.ofInfos entry.parameters with
    | error failure =>
        rw [usable] at found
        cases found
    | ok parameters =>
        rw [usable] at found
        rw [← Except.ok.inj found]
        dsimp only
        rw [SnapshotCatalog.sampled]
        split <;> rfl

/-- The procedures of a schema are what was read under each name. -/
theorem procedures_of_schema {catalog : SnapshotCatalog} {read : Schema}
    (found : catalog.schema settings = .ok read) :
    (catalog.procedureNames settings).map (catalog.readProcedure settings) =
      read.procedures.map .ok := by
  unfold schema at found
  cases procedures : (catalog.procedureNames settings).mapM (catalog.readProcedure settings) with
  | error failure =>
      rw [procedures] at found
      cases found
  | ok members =>
      rw [procedures] at found
      cases found
      exact mapM_eq_ok_iff.mp procedures

private theorem findSome?_congr {α β : Type} {first second : α → Option β} {members : List α}
    (same : ∀ member ∈ members, first member = second member) :
    members.findSome? first = members.findSome? second := by
  induction members with
  | nil => rfl
  | cons member members ih =>
      obtain ⟨here, later⟩ := List.forall_mem_cons.mp same
      rw [List.findSome?_cons, List.findSome?_cons, here, ih later]

/-- What a run reads of the procedures of a snapshot. -/
structure Sampling (settings : Settings) (snapshot : Snapshot) (outcome : Except Failure Schema) :
    Prop where
  /-- The run fails for the first parameter type without a class, and for nothing else. -/
  failed : failure? outcome = snapshot.procedures.findSome? fun procedure =>
    if procedure.error = none then failure? (Parameter.ofInfos procedure.parameters) else none
  /-- Otherwise every procedure is there, in the order of the snapshot. -/
  listed : ∀ schema, outcome = .ok schema →
    schema.procedures.map (·.name) = snapshot.procedures.map (·.name)
  /-- A procedure that is to be sampled has the sample of its source. -/
  sampled : ∀ schema, outcome = .ok schema → ∀ procedure ∈ snapshot.procedures,
    procedure.error = none → settings.returnsData procedure.name = true →
    settings.wantsSample procedure.definition = true → settings.Addresses procedure.name →
    ∀ read ∈ schema.procedures, read.name = procedure.name →
      read.sample = (snapshot.sampleSource? procedure.name).bind SnapshotProcedure.ownSample
  /-- Its batch leads back to its name, and from there to what the source yields. -/
  resolved : ∀ procedure : Procedure, settings.Addresses procedure.name → ∀ withArguments,
    executedProcedure? (sampleBatch settings.catalogSchema procedure withArguments) =
      some procedure.name ∧
    (ofSnapshot snapshot).outcomes.get? (lower procedure.name) =
      (snapshot.sampleSource? procedure.name).map SnapshotProcedure.outcome
  /-- The source of a procedure is the procedure itself when no other name agrees with its name up
  to letter case. -/
  own : ∀ procedure ∈ snapshot.procedures,
    (∀ other ∈ snapshot.procedures, lower other.name = lower procedure.name → other = procedure) →
    snapshot.sampleSource? procedure.name = some procedure

/-- Every procedure of a snapshot is sampled with the sample that its name leads to. -/
theorem sampling_of_distinct (used : settings.useProcedures = true)
    (distinct : (snapshot.procedures.map (·.name)).Nodup) :
    Sampling settings snapshot
      ((introspect reader settings).runFrom (.ofSnapshot snapshot)).1 := by
  rw [introspect_ofSnapshot]
  have names : (ofSnapshot snapshot).procedureNames settings =
      snapshot.procedures.map (·.name) := by
    rw [procedureNames, if_pos used, keys_procedures distinct]
  constructor
  case failed =>
    have mapped (outcome : Except Failure (List Procedure)) (assemble : List Procedure → Schema) :
        failure? (outcome.map assemble) = failure? outcome := by
      cases outcome <;> rfl
    rw [schema, mapped, failure?_mapM, names, List.findSome?_map]
    refine findSome?_congr fun procedure member => ?_
    exact failure?_readProcedure distinct member
  case listed =>
    intro schema read
    have found := procedures_of_schema read
    rw [names] at found
    rw [map_eq_of_outcomes (fun _ _ => name_of_readProcedure) found, List.map_id']
  case sampled =>
    intro schema found procedure member readable returning wanted addressed read among named
    have outcome : .ok read ∈ ((ofSnapshot snapshot).procedureNames settings).map
        ((ofSnapshot snapshot).readProcedure settings) := by
      rw [procedures_of_schema found]
      exact List.mem_map_of_mem among
    -- Whatever was read under this name is the procedure of this name, as names are distinct.
    obtain ⟨name, -, readAs⟩ := List.mem_map.mp outcome
    have same : name = procedure.name := (name_of_readProcedure readAs).symm.trans named
    exact sample_of_readProcedure distinct member readable returning wanted addressed
      (same ▸ readAs)
  case resolved =>
    exact fun procedure addressed withArguments =>
      ⟨executedProcedure?_sampleBatch addressed withArguments, get?_outcomes snapshot _⟩
  case own =>
    exact fun procedure member single => Snapshot.sampleSource?_of_single member single

/-- A procedure with a sample, one whose sample fails, and one that is not read. -/
theorem sampling_of_distinct_three :
    let settings : Settings := { useProcedures := true, catalogSchema := " dbo" }
    let snapshot : Snapshot := { procedures :=
      [{ name := "grp_a", sample := some ⟨[⟨[], 2⟩]⟩ },
       { name := "grp_b", sampleError := some "time is up" },
       { name := "grp_c", error := some "no permission" }] }
    settings.useProcedures = true ∧ (snapshot.procedures.map (·.name)).Nodup ∧
      settings.Addresses "grp_a" ∧
      Sampling settings snapshot
        ((introspect reader settings).runFrom (.ofSnapshot snapshot)).1 := by
  intro settings snapshot
  refine ⟨rfl, ?distinct, ?addressed, sampling_of_distinct rfl ?distinct⟩
  case distinct => decide
  case addressed => exact ⟨by decide, by decide, by decide⟩

/-- Every procedure that is to be sampled is read with its own sample. -/
def OwnSamples (settings : Settings) (snapshot : Snapshot) : Prop :=
  ∀ procedure ∈ snapshot.procedures, procedure.error = none →
    settings.returnsData procedure.name = true →
    settings.wantsSample procedure.definition = true →
    ∃ schema, ((introspect reader settings).runFrom (.ofSnapshot snapshot)).1 = .ok schema ∧
      ∀ read ∈ schema.procedures, read.name = procedure.name → read.sample = procedure.ownSample

/-- A name that agrees with a later one up to letter case leads to the later sample, a name with a
dot to its last part, and a parameter type without a class ends the run. -/
theorem not_always_ownSamples :
    let settings : Settings := { useProcedures := true }
    let twins : Snapshot := { procedures :=
      [{ name := "grp_a", sample := some ⟨[⟨[], 2⟩]⟩ }, { name := "grp_A" }] }
    let dotted : Snapshot := { procedures := [{ name := "grp_a.b" }] }
    let untyped : Snapshot := { procedures :=
      [{ name := "grp_a", parameters := [{ name := "@x", sqlType := "geometry" }] }] }
    ∀ snapshot ∈ [twins, dotted, untyped], settings.useProcedures = true ∧
      (snapshot.procedures.map (·.name)).Nodup ∧ ¬ OwnSamples settings snapshot := by
  intro settings twins dotted untyped
  have ofTwins : ¬ OwnSamples settings twins := by
    intro claimed
    obtain ⟨schema, read, own⟩ := claimed _ (.head _) rfl (by decide) (by decide)
    -- The later one is executed for both names, and it returns no tables.
    have outcome : ((introspect reader settings).runFrom (.ofSnapshot twins)).1 =
        .ok ⟨[], [], [⟨"grp_a", [], true, none, some {}, none⟩,
          ⟨"grp_A", [], true, none, some {}, none⟩]⟩ := by
      decide +kernel
    cases outcome.symm.trans read
    exact absurd (own _ (.head _) rfl) (by decide)
  have ofDotted : ¬ OwnSamples settings dotted := by
    intro claimed
    obtain ⟨schema, read, own⟩ := claimed _ (.head _) rfl (by decide) (by decide)
    have outcome : ((introspect reader settings).runFrom (.ofSnapshot dotted)).1 =
        .ok ⟨[], [], [⟨"grp_a.b", [], true, none, none, none⟩]⟩ := by
      decide +kernel
    cases outcome.symm.trans read
    exact absurd (own _ (.head _) rfl) (by decide)
  have ofUntyped : ¬ OwnSamples settings untyped := by
    intro claimed
    obtain ⟨schema, read, -⟩ := claimed _ (.head _) rfl (by decide) (by decide)
    have outcome : ((introspect reader settings).runFrom (.ofSnapshot untyped)).1 =
        .error (.unmappedType "geometry" "parameter @x") := by
      decide +kernel
    cases outcome.symm.trans read
  intro snapshot member
  rcases List.mem_cons.mp member with rfl | member
  · exact ⟨rfl, by decide, ofTwins⟩
  rcases List.mem_cons.mp member with rfl | member
  · exact ⟨rfl, by decide, ofDotted⟩
  · rw [List.mem_singleton.mp member]
    exact ⟨rfl, by decide, ofUntyped⟩

end SnapshotCatalog

end DataLayer
