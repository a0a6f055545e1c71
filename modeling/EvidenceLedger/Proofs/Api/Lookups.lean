import EvidenceLedger.Proofs.Api.Requests
import EvidenceLedger.Proofs.Ledger.Audit
import EvidenceLedger.Proofs.Text.Percent
import Mathlib.Data.List.TakeWhile

/-!
# Two ways to look a hash up

A client may name a hash in the path of a request, and be told what is found under it, or post it,
and be sent a report on it. The hash is put into normal form once on the first way and twice on the
second one, and each answer is put together by itself. They say the same nevertheless, of records
with any texts as hashes: a block that is accepted from a peer may hold whatever its proposer has
signed.

Any text can be asked for in either way. In a path it is written with percent signs, which hide from
the path what is in it.
-/

namespace EvidenceLedger

/-- Nothing is left in normal form of a blank hash only. -/
theorem normalizeHash_eq_empty_iff {hash : String} :
    normalizeHash hash = "" ↔ Text.isBlank hash = true := by
  rw [normalizeHash, Text.toLower_eq_empty_iff, Text.trim_eq_empty_iff]

namespace Ledger

variable {judge : Judge} {l : Ledger} {hash alike : String}

/-- What is found depends on the normal form alone. -/
theorem find?_congr (same : normalizeHash alike = normalizeHash hash) :
    l.find? alike = l.find? hash := by
  rw [find?, find?, same]

theorem verify_congr (same : normalizeHash alike = normalizeHash hash) :
    l.verify judge alike = l.verify judge hash := by
  rw [verify, verify, same]

end Ledger

namespace Api

open Json

/-- The path of an address that names a place on the node is all of it, if no query and no fragment
follows. -/
theorem Address.path_ofText {rest : List Char} (inPath : ∀ c ∈ rest, c ≠ '?' ∧ c ≠ '#') :
    (Address.ofText (String.ofList ('/' :: rest))).path = '/' :: rest := by
  have noFragment : ('/' :: rest).takeWhile (· != '#') = '/' :: rest := by
    rw [List.takeWhile_eq_self_iff, List.forall_mem_cons]
    exact ⟨by decide, fun c member => bne_iff_ne.mpr (inPath c member).2⟩
  have noQuery : ('/' :: rest).takeWhile (· != '?') = '/' :: rest := by
    rw [List.takeWhile_eq_self_iff, List.forall_mem_cons]
    exact ⟨by decide, fun c member => bne_iff_ne.mpr (inPath c member).1⟩
  have place : (ofPlain ('/' :: rest)).path = pathOf ('/' :: rest) := by simp [ofPlain]
  rw [ofText, String.toList_ofList, noFragment, place]
  exact noQuery

namespace Route

theorem notMem_lookupRoot : '?' ∉ lookupRoot ∧ '#' ∉ lookupRoot := by
  decide

theorem not_prefix_of_fixed : ∀ entry ∈ fixedPaths, ¬lookupRoot <+: entry.1.toList := by
  decide

/-- One segment after the root of lookups is looked up. -/
theorem ofPath?_lookup {segment : List Char} (nonempty : segment ≠ []) (one : '/' ∉ segment) :
    ofPath? (lookupRoot ++ segment) = some (.lookup segment) := by
  have notFixed : (fixedPaths.find? fun entry => entry.1.toList == lookupRoot ++ segment) =
      none := by
    rw [List.find?_eq_none]
    intro entry member same
    apply not_prefix_of_fixed entry member
    rw [eq_of_beq same]
    exact List.prefix_append _ _
  have after : (lookupRoot ++ segment).drop lookupRoot.length = segment := List.drop_left
  have root : lookupRoot.isPrefixOf (lookupRoot ++ segment) = true :=
    List.isPrefixOf_iff_prefix.mpr (List.prefix_append _ _)
  simp [ofPath?, notFixed, after, root, nonempty, one]

end Route

namespace Request

/-- The request looks the hash up that the last segment of its path stands for. -/
structure LooksUp (r : Request) (hash : String) : Prop where
  get : r.method = "GET"
  path : ∃ segment, r.path = "/api/evidences/hash/".toList ++ segment ∧ segment ≠ [] ∧
    '/' ∉ segment ∧
    Bytes.toString? (Percent.decode (Bytes.ofString (String.ofList segment))) = some hash

/-- The request posts the hash to be verified, in whatever way it is written down. -/
structure Verifies (r : Request) (hash : String) : Prop where
  post : r.method = "POST"
  path : r.path = "/api/verify".toList
  read : readBody readHash r = .ok hash

/-- The request that names a hash in its path, with every byte of it encoded. -/
def looking (hash : String) : Request :=
  ⟨"GET", String.ofList (Route.lookupRoot ++ Percent.encode (Bytes.ofString hash)), none, []⟩

/-- The request that posts a hash to be verified. -/
def verifying (hash : String) : Request :=
  .posting "/api/verify" (.obj [("hash", .str hash)])

/-- Any text but the empty one can be named in a path. -/
theorem looksUp_looking {hash : String} (nonempty : hash ≠ "") :
    (looking hash).LooksUp hash where
  get := rfl
  path := by
    have plain {c : Char} (member : c ∈ Percent.encode (Bytes.ofString hash)) : Percent.Plain c :=
      Percent.plain_of_mem_encode member
    have encoded : Percent.encode (Bytes.ofString hash) ≠ [] := by
      rw [Ne, Percent.encode_eq_nil_iff]
      intro nothing
      have read := Bytes.toString?_ofString hash
      rw [nothing] at read
      exact nonempty (Option.some.inj read).symm
    refine ⟨_, ?_, encoded, fun slash => (plain slash).inSegment rfl,
      Percent.toString?_decode_encode hash⟩
    have root : Route.lookupRoot = '/' :: "api/evidences/hash/".toList := by decide
    have inPath : ∀ c ∈ "api/evidences/hash/".toList ++ Percent.encode (Bytes.ofString hash),
        c ≠ '?' ∧ c ≠ '#' := by
      intro c member
      rcases List.mem_append.mp member with fixed | written
      · have inRoot : c ∈ Route.lookupRoot := by
          rw [root]
          exact List.mem_cons_of_mem '/' fixed
        exact ⟨ne_of_mem_of_not_mem inRoot Route.notMem_lookupRoot.1,
          ne_of_mem_of_not_mem inRoot Route.notMem_lookupRoot.2⟩
      · exact (plain written).inPath
    have isPath := Address.path_ofText inPath
    rw [← List.cons_append, ← root] at isPath
    exact isPath

theorem verifies_verifying (hash : String) : (verifying hash).Verifies hash where
  post := rfl
  path := by
    show (Address.ofText "/api/verify").path = "/api/verify".toList
    decide
  read := readBody_posting (RecordReader.Reads.obj (.default "hash" "" (Reader.reads_text hash)))
    "/api/verify"

end Request

namespace Service

variable {r : Request} {hash alike : String}

theorem handle_looksUp (s : Service) (session : Session) (looksUp : r.LooksUp hash) :
    s.handle r session = (session, .finding (s.lookup session.ledger hash)) := by
  obtain ⟨segment, isPath, nonempty, one, stands⟩ := looksUp.path
  have found : Route.ofPath? r.path = some (.lookup segment) := by
    rw [isPath]
    exact Route.ofPath?_lookup nonempty one
  have allowed : (Route.lookup segment).allows r.method = true := by
    rw [looksUp.get]
    rfl
  rw [handle_of_allows found allowed, serve]
  simp only [stands]

theorem handle_verifies (s : Service) (session : Session) (verifies : r.Verifies hash)
    (notBlank : Text.isBlank hash = false) :
    s.handle r session = (session, .report (session.ledger.verify s.judge hash)) := by
  have found : Route.ofPath? r.path = some .verify :=
    (@Route.ofPath?_eq_some_iff "/api/verify" .verify (by decide) r.path).mpr verifies.path
  have allowed : Route.verify.allows r.method = true := by
    rw [verifies.post]
    rfl
  rw [handle_of_allows found allowed, serve, verifies.read, reading,
    if_neg (ne_true_of_eq_false notBlank)]

theorem lookup_congr (s : Service) (l : Ledger) (same : normalizeHash alike = normalizeHash hash) :
    s.lookup l alike = s.lookup l hash := by
  rw [lookup, lookup, Ledger.find?_congr same]

/-- Whatever text is asked for, the finding and the report are made of the same proof, or of
none. -/
theorem lookup_agrees (s : Service) (l : Ledger) (hash : String) :
    ((s.lookup l hash).found = true ↔ (l.verify s.judge hash).verified = true) ∧
    ((s.lookup l hash).found = true ↔
      ∃ record ∈ l.sealedRecords, record.artifact.hash = normalizeHash hash) ∧
    (s.lookup l hash).evidence = (l.verify s.judge hash).evidence ∧
    (s.lookup l hash).proof = (l.verify s.judge hash).proof ∧
    (s.lookup l hash).evidence.isSome = (s.lookup l hash).found ∧
    (s.lookup l hash).proof.isSome = (s.lookup l hash).found ∧
    (l.verify s.judge hash).hash = normalizeHash hash := by
  cases found : l.find? hash with
  | none =>
    have isFinding : s.lookup l hash = ⟨false, none, none⟩ := by rw [lookup, found]
    have missing := Ledger.find?_eq_none_iff.mp found
    rw [isFinding, Ledger.verify_of_find?_eq_none found]
    refine ⟨Iff.rfl, iff_of_false Bool.false_ne_true ?_, rfl, rfl, rfl, rfl, rfl⟩
    rintro ⟨record, member, same⟩
    exact missing record member same
  | some proof =>
    have isFinding : s.lookup l hash =
        ⟨true, some proof.evidence, some (s.judge.details proof)⟩ := by rw [lookup, found]
    rw [isFinding, Ledger.verify_of_find?_eq_some found]
    exact ⟨Iff.rfl, iff_of_true rfl ⟨_, Ledger.of_find?_eq_some found⟩, rfl, rfl, rfl, rfl, rfl⟩

/-- Requests for texts with the same normal form get the same answers. -/
theorem handle_of_normalizeHash_eq (s : Service) (session : Session)
    (same : normalizeHash alike = normalizeHash hash) (notBlank : Text.isBlank hash = false) :
    (∀ get : Request, get.LooksUp alike →
      s.handle get session = (session, .finding (s.lookup session.ledger hash))) ∧
    ∀ post : Request, post.Verifies alike →
      s.handle post session = (session, .report (session.ledger.verify s.judge hash)) := by
  have alikeNotBlank : Text.isBlank alike = false := by
    rw [Bool.eq_false_iff, Ne, ← normalizeHash_eq_empty_iff, same, normalizeHash_eq_empty_iff,
      notBlank]
    exact Bool.false_ne_true
  constructor
  · intro get looksUp
    rw [handle_looksUp s session looksUp, lookup_congr s _ same]
  · intro post verifies
    rw [handle_verifies s session verifies alikeNotBlank, Ledger.verify_congr same]

/-- The two ways to look a hash up agree. A text that is not blank can be asked for in both, and
whatever the state of the node is, it has one finding and one report for it, however the requests
are written down. Both are for every text with the same normal form, which is its own normal form.
The one says that something is found exactly if the other says that it is verified, which is if some
sealed record has the normal form as its hash; both carry the same record and the same details then,
and none otherwise. The report repeats the normal form. -/
theorem lookups_of_not_blank (s : Service) (session : Session) (hash : String)
    (notBlank : Text.isBlank hash = false) :
    (∃ get : Request, get.LooksUp hash) ∧ (∃ post : Request, post.Verifies hash) ∧
    normalizeHash (normalizeHash hash) = normalizeHash hash ∧
    ∃ (finding : Finding) (report : VerificationReport),
      ((finding.found = true ↔ report.verified = true) ∧
        (finding.found = true ↔
          ∃ record ∈ session.ledger.sealedRecords, record.artifact.hash = normalizeHash hash) ∧
        finding.evidence = report.evidence ∧ finding.proof = report.proof ∧
        finding.evidence.isSome = finding.found ∧ finding.proof.isSome = finding.found ∧
        report.hash = normalizeHash hash) ∧
      ∀ alike, normalizeHash alike = normalizeHash hash →
        (∀ get : Request, get.LooksUp alike →
          s.handle get session = (session, .finding finding)) ∧
        ∀ post : Request, post.Verifies alike →
          s.handle post session = (session, .report report) := by
  have nonempty : hash ≠ "" := by
    rintro rfl
    exact Bool.false_ne_true notBlank.symm
  refine ⟨⟨_, Request.looksUp_looking nonempty⟩, ⟨_, Request.verifies_verifying hash⟩,
    normalizeHash_normalizeHash hash, _, _, lookup_agrees s session.ledger hash, ?_⟩
  exact fun alike same => handle_of_normalizeHash_eq s session same notBlank

/-- The leader has sealed a record. Its hash is found as it stands in the record, and verified as it
was submitted, with white space around it, and both answers carry the record. -/
theorem lookups_of_sample :
    let session := Session.start (Sample.waiting.append Sample.sealedBlock [])
    let answer (r : Request) := Sample.leaderService.handle r session
    Ledger.Reachable Sample.leaderService.judge session.ledger ∧
      Text.isBlank Sample.question = false ∧ Sample.question ≠ Sample.record.artifact.hash ∧
      ∃ (finding : Finding) (report : VerificationReport),
        answer (.looking Sample.record.artifact.hash) = (session, .finding finding) ∧
        answer (.verifying Sample.question) = (session, .report report) ∧
        finding.found = true ∧ report.verified = true ∧ finding.evidence.isSome = true ∧
        finding.evidence = report.evidence ∧ finding.proof = report.proof ∧
        report.hash = Sample.record.artifact.hash := by
  intro session answer
  have notBlank : Text.isBlank Sample.question = false := by decide
  obtain ⟨_, _, again, finding, report, same, answers⟩ :=
    lookups_of_not_blank Sample.leaderService session Sample.question notBlank
  obtain ⟨agree, isFound, evidence, proof, carries, _, hash⟩ := same
  have found : finding.found = true :=
    isFound.mpr ⟨Sample.record, List.mem_singleton_self _, Sample.normalizeHash_question.symm⟩
  have ownForm : normalizeHash Sample.record.artifact.hash = normalizeHash Sample.question := by
    rw [← Sample.normalizeHash_question]
    exact again
  have looked := (answers Sample.record.artifact.hash ownForm).1 _
    (Request.looksUp_looking (by decide))
  have verified := (answers Sample.question rfl).2 _ (Request.verifies_verifying Sample.question)
  exact ⟨Sample.reachable_sealed, notBlank, by decide, finding, report, looked, verified, found,
    agree.mp found, carries.trans found, evidence, proof,
    hash.trans Sample.normalizeHash_question⟩

end Service

end Api

end EvidenceLedger
