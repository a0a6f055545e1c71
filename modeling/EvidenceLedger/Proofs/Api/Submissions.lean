import EvidenceLedger.Proofs.Api.Requests
import EvidenceLedger.Proofs.Ledger.Normality
import Mathlib.Data.List.Nodup

/-!
# Which evidence is taken

What a client posts as evidence is looked at three times. No mandatory field may be blank; then the
algorithm has to be the one that is known, and then the hash has to be one that it gives. The first
look reports all that it finds, and the other two are not taken then; of those, the first that finds
something is the last one. Each trims the text that it looks at for itself, and so does what puts
the hash into normal form in the end. So that they agree has to be proved, and it is all there is to
be proved: evidence that passes waits at the node as it was sent, apart from the normal form.
-/

namespace EvidenceLedger

open Json

namespace Artifact

/-- The names of the mandatory fields, in the order in which they are declared. -/
def mandatoryNames : List String :=
  ["homologationId", "testRunId", "artifactName", "artifactType", "hashAlgorithm", "hash",
    "createdBy"]

variable {a : Artifact}

theorem map_mandatory (a : Artifact) : a.mandatory.map Prod.fst = mandatoryNames := rfl

/-- Blank fields are reported in the order in which they are declared, and none is twice. -/
theorem blankFields_sublist (a : Artifact) : a.blankFields.Sublist mandatoryNames := by
  rw [← a.map_mandatory]
  exact List.filter_sublist.map Prod.fst

/-- A field is told from the others by its name. -/
theorem mem_blankFields_iff {field : String × String} (member : field ∈ a.mandatory) :
    field.1 ∈ a.blankFields ↔ Text.isBlank field.2 = true := by
  have distinct : (a.mandatory.map Prod.fst).Nodup := by
    rw [map_mandatory]
    decide
  rw [blankFields, List.mem_map]
  constructor
  · rintro ⟨other, isBlank, same⟩
    obtain ⟨isOther, blank⟩ := List.mem_filter.mp isBlank
    rw [← List.inj_on_of_nodup_map distinct isOther member same]
    exact blank
  · intro blank
    exact ⟨field, List.mem_filter.mpr ⟨member, blank⟩, rfl⟩

theorem blankFields_eq_nil_iff :
    a.blankFields = [] ↔ ∀ field ∈ a.mandatory, Text.isBlank field.2 = false := by
  simp only [blankFields, List.map_eq_nil_iff, List.filter_eq_nil_iff, Bool.not_eq_true]

end Artifact

namespace EvidenceDraft

variable {d : EvidenceDraft} {newId : String} {now : Timestamp}

/-- The algorithm is looked at before the hash. -/
theorem toRecord_of_algorithm
    (other : normalizeAlgorithm d.artifact.hashAlgorithm ≠ supportedAlgorithm) :
    d.toRecord newId now =
      .error (.unsupportedAlgorithm (normalizeAlgorithm d.artifact.hashAlgorithm)) := by
  simp only [toRecord, checkAlgorithm, if_neg other]
  rfl

theorem toRecord_of_hash
    (supported : normalizeAlgorithm d.artifact.hashAlgorithm = supportedAlgorithm)
    (malformed : checkHash d.artifact.hash ≠ .ok ()) :
    d.toRecord newId now = .error (.malformedHash (Text.trim d.artifact.hash).length) := by
  have notText : ¬Digest.isText (Text.trim d.artifact.hash) = true := by
    intro isText
    apply malformed
    simp only [checkHash, if_pos isText]
  simp only [toRecord, checkAlgorithm, if_pos supported, checkHash, if_neg notText]
  rfl

/-- What becomes of evidence with a hash that is well-formed. -/
theorem toRecord_of_wellFormed {a : Artifact}
    (supported : normalizeAlgorithm a.hashAlgorithm = supportedAlgorithm)
    (wellFormed : checkHash a.hash = .ok ()) :
    (EvidenceDraft.mk none a none).toRecord newId now =
      .ok ⟨newId, { a with
        hashAlgorithm := supportedAlgorithm
        hash := String.ofList ((Text.trim a.hash).toList.map Char.toLower) }, now⟩ := by
  obtain ⟨_, digits⟩ := checkHash_eq_ok_iff.mp wellFormed
  rw [toRecord_eq_ok_iff, checkAlgorithm_eq_ok_iff, normalizeHash,
    Text.toLower_of_isHexDigit digits]
  exact ⟨⟨supported, wellFormed⟩, rfl, rfl, rfl⟩

end EvidenceDraft

namespace Api

/-- The request posts the evidence, in whatever way it is written down. -/
structure Request.Submits (r : Request) (a : Artifact) : Prop where
  post : r.method = "POST"
  path : r.path = "/api/evidences".toList
  read : readBody readArtifact r = .ok a

theorem reads_readArtifact (a : Artifact) : readArtifact.Reads (.obj a.members) a :=
  RecordReader.Reads.obj (Artifact.readsWith_members
    (fun name value => .default name "" (Reader.reads_text value)) a)

/-- Evidence can be posted as the object of its members. -/
theorem Request.submits_posting (a : Artifact) :
    (Request.posting "/api/evidences" (.obj a.members)).Submits a where
  post := rfl
  path := by
    show (Address.ofText "/api/evidences").path = "/api/evidences".toList
    decide
  read := readBody_posting (reads_readArtifact a) "/api/evidences"

variable {a : Artifact}

theorem toDraft_of_blank (blank : ∃ field ∈ a.mandatory, Text.isBlank field.2 = true) :
    toDraft a = .error (.blankFields a.blankFields) := by
  obtain ⟨field, member, isBlank⟩ := blank
  rw [toDraft]
  split
  · next none =>
    rw [Artifact.blankFields_eq_nil_iff.mp none field member] at isBlank
    cases isBlank
  · rfl

theorem toDraft_of_not_blank (notBlank : ∀ field ∈ a.mandatory, Text.isBlank field.2 = false) :
    toDraft a = .ok ⟨none, a, none⟩ := by
  rw [toDraft, Artifact.blankFields_eq_nil_iff.mpr notBlank]

namespace Service

variable {r : Request}

theorem handle_submits (s : Service) (session : Session) (submits : r.Submits a) :
    s.handle r session = s.reading session (toDraft a) fun draft =>
      s.conclude session (session.ledger.submit draft s.newId s.now) .submitted := by
  have found : Route.ofPath? r.path = some .submit :=
    (@Route.ofPath?_eq_some_iff "/api/evidences" .submit (by decide) r.path).mpr submits.path
  have allowed : Route.submit.allows r.method = true := by
    rw [submits.post]
    rfl
  rw [handle_of_allows found allowed, serve, submits.read]
  rfl

/-- A blank field is reported whatever else is wrong. -/
theorem handle_submits_of_blank (s : Service) (session : Session) (submits : r.Submits a)
    (blank : ∃ field ∈ a.mandatory, Text.isBlank field.2 = true) :
    s.handle r session = (session, s.failure (.blankFields a.blankFields)) := by
  rw [handle_submits s session submits, toDraft_of_blank blank]
  rfl

/-- What the ledger refuses changes nothing. -/
theorem handle_submits_of_error (s : Service) (session : Session) (submits : r.Submits a)
    (notBlank : ∀ field ∈ a.mandatory, Text.isBlank field.2 = false) {reason : LedgerError}
    (refused : (EvidenceDraft.mk none a none).toRecord s.newId s.now = .error reason) :
    s.handle r session = (session, s.failure (.ledger reason)) := by
  rw [handle_submits s session submits, toDraft_of_not_blank notBlank, reading, conclude,
    Ledger.submit_of_error refused, Ledger.refuse_effects, List.append_nil]
  rfl

/-- What the ledger takes waits there. -/
theorem handle_submits_of_ok (s : Service) (session : Session) (submits : r.Submits a)
    (notBlank : ∀ field ∈ a.mandatory, Text.isBlank field.2 = false) {record : EvidenceRecord}
    (made : (EvidenceDraft.mk none a none).toRecord s.newId s.now = .ok record) :
    (s.handle r session).2 = .submitted record ∧
      (s.handle r session).1.ledger =
        { session.ledger with mempool := session.ledger.mempool ++ [record] } := by
  rw [handle_submits s session submits, toDraft_of_not_blank notBlank, reading, conclude,
    Ledger.submit_of_ok made]
  exact ⟨rfl, rfl⟩

/-- Evidence without blank fields is taken exactly if it passes both checks. -/
theorem status_handle_submits (s : Service) (session : Session) (submits : r.Submits a)
    (notBlank : ∀ field ∈ a.mandatory, Text.isBlank field.2 = false) :
    (s.handle r session).2.status = 201 ↔
      checkAlgorithm a.hashAlgorithm = .ok () ∧ checkHash a.hash = .ok () := by
  cases made : (EvidenceDraft.mk none a none).toRecord s.newId s.now with
  | ok record =>
    have taken := handle_submits_of_ok s session submits notBlank made
    exact iff_of_true (congrArg Reply.status taken.1) (EvidenceDraft.toRecord_eq_ok_iff.mp made).1
  | error reason =>
    have refused := handle_submits_of_error s session submits notBlank made
    have least : 400 ≤ (s.handle r session).2.status := by
      rw [refused]
      exact Failure.le_status (.ledger reason)
    refine iff_of_false (by omega) fun ⟨algorithm, hash⟩ => ?_
    have passes := @EvidenceDraft.toRecord_of_wellFormed s.newId s.now a
      (checkAlgorithm_eq_ok_iff.mp algorithm) hash
    cases made.symm.trans passes

/-- Exactly the admissible evidence is taken. Whatever the evidence is, it can be posted, and
however it is posted to a node in whatever state, this is what comes of it.

If mandatory fields are blank, all those that are blank are reported, in the order in which they are
declared, and nothing happens. Otherwise the evidence is taken exactly if its algorithm, trimmed and
in upper case, is the one that is known, and its hash, trimmed, has 64 hexadecimal digits and
nothing else; if neither is so the algorithm is reported. Evidence that is taken waits behind all
that waited before, and the node answers with it as it waits there: with the identifier that was
made for it and the time of the submission, with its hash in the lower case of ASCII, under the one
algorithm, and otherwise as it was sent. -/
theorem submission_of_artifact (s : Service) (session : Session) (a : Artifact) :
    (∃ r : Request, r.Submits a) ∧
    ∀ r : Request, r.Submits a →
      let after := (s.handle r session).1
      let reply := (s.handle r session).2
      let algorithm := Text.toUpper (Text.trim a.hashAlgorithm)
      let hash := Text.trim a.hash
      let isHash := hash.toList.length = 64 ∧ ∀ c ∈ hash.toList, Bytes.isHexDigit c = true
      ((∃ field ∈ a.mandatory, Text.isBlank field.2 = true) →
        reply.status = 400 ∧ after = session ∧
        ∃ names, reply = s.failure (.blankFields names) ∧
          names.Sublist Artifact.mandatoryNames ∧
          ∀ field ∈ a.mandatory, field.1 ∈ names ↔ Text.isBlank field.2 = true) ∧
      ((∀ field ∈ a.mandatory, Text.isBlank field.2 = false) →
        (reply.status = 201 ↔ algorithm = "SHA-256" ∧ isHash) ∧
        (algorithm ≠ "SHA-256" →
          reply.status = 400 ∧ after = session ∧
          reply = s.failure (.ledger (.unsupportedAlgorithm algorithm))) ∧
        (algorithm = "SHA-256" → ¬isHash →
          reply.status = 400 ∧ after = session ∧
          reply = s.failure (.ledger (.malformedHash hash.length))) ∧
        (reply.status = 201 →
          ∃ record : EvidenceRecord, reply = .submitted record ∧
            after.ledger = { session.ledger with mempool := session.ledger.mempool ++ [record] } ∧
            record.evidenceId = s.newId ∧ record.createdAt = s.now ∧
            record.artifact = { a with
              hashAlgorithm := "SHA-256"
              hash := String.ofList (hash.toList.map Char.toLower) })) := by
  refine ⟨⟨_, Request.submits_posting a⟩, fun r submits => ?_⟩
  intro after reply algorithm hash isHash
  have fails {failure : Failure} (answer : s.handle r session = (session, s.failure failure))
      (bad : failure.status = 400) :
      reply.status = 400 ∧ after = session ∧ reply = s.failure failure :=
    ⟨(congrArg (fun answered => answered.2.status) answer).trans bad, congrArg Prod.fst answer,
      congrArg Prod.snd answer⟩
  refine ⟨fun blank => ?_, fun notBlank => ?_⟩
  · obtain ⟨status, same, isReply⟩ := fails (handle_submits_of_blank s session submits blank) rfl
    exact ⟨status, same, a.blankFields, isReply, a.blankFields_sublist,
      fun field => Artifact.mem_blankFields_iff⟩
  · have created : reply.status = 201 ↔ algorithm = "SHA-256" ∧ isHash :=
      (status_handle_submits s session submits notBlank).trans
        (and_congr checkAlgorithm_eq_ok_iff checkHash_eq_ok_iff)
    have refused {reason : LedgerError} :=
      @handle_submits_of_error a r s session submits notBlank reason
    refine ⟨created, fun other => ?_, fun same malformed => ?_, fun isCreated => ?_⟩
    · exact fails (refused (EvidenceDraft.toRecord_of_algorithm other)) rfl
    · have notOk : checkHash a.hash ≠ .ok () := mt checkHash_eq_ok_iff.mp malformed
      exact fails (refused (EvidenceDraft.toRecord_of_hash same notOk)) rfl
    · obtain ⟨same, good⟩ := created.mp isCreated
      obtain ⟨isReply, isAfter⟩ := handle_submits_of_ok s session submits notBlank
        (EvidenceDraft.toRecord_of_wellFormed same (checkHash_eq_ok_iff.mpr good))
      exact ⟨_, isReply, isAfter, rfl, rfl, rfl⟩

/-- The leader takes the evidence, and puts its hash into lower case. Evidence without a name, with
an unknown algorithm or with a short hash is reported for the first of these that it has. -/
theorem submission_of_sample :
    let session := Session.start (.fresh .standard)
    let good := Sample.draft.artifact
    let short := { good with hash := "abc" }
    let unknown := { short with hashAlgorithm := "md5" }
    let nameless := { unknown with artifactName := " " }
    let answer (a : Artifact) :=
      Sample.leaderService.handle (.posting "/api/evidences" (.obj a.members)) session
    ((answer good).2.status = 201 ∧ ∃ record, (answer good).2 = .submitted record ∧
      (answer good).1.ledger.mempool = [record] ∧
      record.artifact.hash = String.ofList (List.replicate 64 'a')) ∧
    (answer short).2 = .failed (.ledger (.malformedHash 3)) .genesis ∧
    (answer unknown).2 = .failed (.ledger (.unsupportedAlgorithm "MD5")) .genesis ∧
    ∃ names, (answer nameless).2 = .failed (.blankFields names) .genesis ∧
      "artifactName" ∈ names ∧ "hashAlgorithm" ∉ names := by
  intro session good short unknown nameless answer
  have result (a : Artifact) := (submission_of_artifact Sample.leaderService session a).2 _
    (Request.submits_posting a)
  obtain ⟨⟨algorithm, wellFormed⟩, _⟩ := EvidenceDraft.toRecord_eq_ok_iff.mp Sample.toRecord_draft
  have supported := checkAlgorithm_eq_ok_iff.mp algorithm
  have created : (answer good).2.status = 201 :=
    ((result good).2 (by decide)).1.mpr ⟨supported, checkHash_eq_ok_iff.mp wellFormed⟩
  obtain ⟨record, isReply, isAfter, _, _, artifact⟩ :=
    ((result good).2 (by decide)).2.2.2 created
  have hash : record.artifact.hash = String.ofList (List.replicate 64 'a') := by
    rw [artifact]
    decide +kernel
  have length : (Text.trim short.hash).length = 3 := by decide +kernel
  obtain ⟨_, _, isShort⟩ := ((result short).2 (by decide)).2.2.1 supported (by decide +kernel)
  rw [length] at isShort
  have isOther : Text.toUpper (Text.trim unknown.hashAlgorithm) = "MD5" := by decide +kernel
  obtain ⟨_, _, isUnknown⟩ :=
    ((result unknown).2 (by decide)).2.1 (by rw [isOther]; decide)
  rw [isOther] at isUnknown
  obtain ⟨_, _, names, isNameless, _, exactly⟩ := (result nameless).1 (by decide)
  have artifactName := (exactly ("artifactName", " ") (by decide)).mpr (by decide)
  have hashAlgorithm := mt (exactly ("hashAlgorithm", "md5") (by decide)).mp (by decide)
  exact ⟨⟨created, record, isReply, congrArg Ledger.mempool isAfter, hash⟩, isShort, isUnknown,
    names, isNameless, artifactName, hashAlgorithm⟩

end Service

end Api

end EvidenceLedger
