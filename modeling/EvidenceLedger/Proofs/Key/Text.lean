import EvidenceLedger.Proofs.Chain.Sealing
import EvidenceLedger.Proofs.Key.Der

/-!
# All texts of a key are the key

A key has two texts, the base64 form of its bytes and that of a key file around them, and white
space may stand around either. Which of the two a text holds is seen from the number of bytes alone.
That works because key files are longer: 44 bytes around a public key, 83 around a private one.

So it does not matter in which form a key is configured. Whatever is signed or verified under one
text is signed or verified under every other text of the same key. A public key has no text besides
these two; a private key has more, because key files of other makers may hold attributes and leave
the public key out.
-/

namespace EvidenceLedger

theorem Octets.ofBytes?_eq_some_iff {n : Nat} {bytes : Bytes} {octets : Octets n} :
    Octets.ofBytes? n bytes = some octets ↔ bytes = octets.bytes := by
  constructor
  · intro read
    unfold Octets.ofBytes? at read
    split at read
    · obtain rfl := Option.some.inj read
      rfl
    · cases read
  · rintro rfl
    exact Octets.ofBytes?_bytes octets

/-- Bytes that are more or fewer are not taken. -/
theorem Octets.ofBytes?_eq_none {n : Nat} {bytes : Bytes} (other : bytes.length ≠ n) :
    Octets.ofBytes? n bytes = none :=
  dif_neg other

/-- A text writes bytes exactly if trimming leaves their base64 form. -/
theorem decodeBase64_eq_ok_iff {what : KeyText} {s : String} {bytes : Bytes} :
    decodeBase64 what s = .ok bytes ↔ Text.trim s = Bytes.toBase64 bytes := by
  rw [← Bytes.ofBase64?_eq_some_iff, decodeBase64]
  cases Bytes.ofBase64? (Text.trim s) with
  | none => simp
  | some read => simp

namespace PublicKey

def texts (key : PublicKey) : List String :=
  [key.toText, key.toFileText]

def bitsElement (key : PublicKey) : Der.Element :=
  ⟨Der.bitStringTag, 0 :: key.octets.bytes⟩

def fileContent (key : PublicKey) : Bytes :=
  algorithmElement.toBytes ++ key.bitsElement.toBytes

variable {key : PublicKey}

theorem length_content_bitsElement (key : PublicKey) : key.bitsElement.content.length = 33 :=
  congrArg (· + 1) key.octets.length_eq

theorem writable_bitsElement (key : PublicKey) : key.bitsElement.Writable :=
  .of_short Der.isTag_bitStringTag (by rw [length_content_bitsElement]; decide)

theorem writable_algorithmElement : algorithmElement.Writable :=
  .of_short Der.isTag_sequenceTag (by decide)

theorem writable_identifier :
    (Der.Element.mk Der.identifierTag algorithmIdentifier).Writable :=
  .of_short Der.isTag_identifierTag (by decide)

theorem length_fileContent (key : PublicKey) : key.fileContent.length = 42 := by
  have count := length_content_bitsElement key
  rw [fileContent, List.length_append,
    Der.length_toBytes_of_short (e := key.bitsElement) (by omega), count]
  rfl

theorem writable_file (key : PublicKey) :
    (Der.Element.mk Der.sequenceTag key.fileContent).Writable :=
  .of_short Der.isTag_sequenceTag (by rw [length_fileContent]; decide)

theorem length_toFile (key : PublicKey) : key.toFile.length = 44 := by
  have short : key.fileContent.length < 0x80 := by
    rw [length_fileContent]
    decide
  have length := Der.length_toBytes_of_short (e := ⟨Der.sequenceTag, key.fileContent⟩) short
  rw [length_fileContent] at length
  exact length

/-- A key is read from a key file exactly if it is the file that the key writes. -/
theorem octetsOfFile?_eq_some_iff {bytes : Bytes} {octets : Octets 32} :
    octetsOfFile? bytes = some octets ↔ bytes = toFile ⟨octets⟩ := by
  simp only [octetsOfFile?, Option.bind_eq_bind, Option.bind_eq_some_iff, Prod.exists,
    Der.readAll?_eq_some_iff, Der.expect?_eq_some_iff, Option.ite_none_right_eq_some]
  constructor
  · rintro ⟨content, ⟨_, rfl⟩, algorithm, rest, ⟨_, rfl⟩, identifier, ⟨_, rfl⟩, bits, ⟨_, rfl⟩, rfl,
      key⟩
    split at key
    · obtain rfl := Octets.ofBytes?_eq_some_iff.mp key
      rfl
    · cases key
  · rintro rfl
    exact ⟨_, ⟨writable_file ⟨octets⟩, rfl⟩, _, _, ⟨writable_algorithmElement, rfl⟩, _,
      ⟨writable_identifier, rfl⟩, _, ⟨writable_bitsElement ⟨octets⟩, rfl⟩, rfl,
      Octets.ofBytes?_bytes octets⟩

theorem octetsOfBytes?_eq_some_iff {bytes : Bytes} {octets : Octets 32} :
    octetsOfBytes? bytes = some octets ↔ bytes = octets.bytes ∨ bytes = toFile ⟨octets⟩ := by
  rw [← octetsOfFile?_eq_some_iff, ← Octets.ofBytes?_eq_some_iff, octetsOfBytes?]
  cases raw : Octets.ofBytes? 32 bytes with
  | none => simp
  | some other =>
    -- Bytes that are a key themselves are too few for a key file.
    have noFile : octetsOfFile? bytes ≠ some octets := by
      intro file
      have length := length_toFile ⟨octets⟩
      rw [← octetsOfFile?_eq_some_iff.mp file, Octets.ofBytes?_eq_some_iff.mp raw,
        other.length_eq] at length
      cases length
    simp [noFile]

theorem ofOctets?_eq_some_iff {octets : Octets 32} :
    ofOctets? octets = some key ↔ onCurve key.octets = true ∧ octets = key.octets := by
  rw [ofOctets?, Option.ite_none_right_eq_some, Option.some.injEq]
  constructor
  · rintro ⟨point, rfl⟩
    exact ⟨point, rfl⟩
  · rintro ⟨point, rfl⟩
    exact ⟨point, rfl⟩

theorem trim_mem_texts_iff {s : String} : Text.trim s ∈ key.texts ↔
    ∃ bytes, decodeBase64 .publicKey s = .ok bytes ∧ octetsOfBytes? bytes = some key.octets := by
  simp only [decodeBase64_eq_ok_iff, octetsOfBytes?_eq_some_iff, texts, List.mem_cons,
    List.not_mem_nil, or_false]
  constructor
  · rintro (raw | file)
    · exact ⟨_, raw, .inl rfl⟩
    · exact ⟨_, file, .inr rfl⟩
  · rintro ⟨bytes, written, rfl | rfl⟩
    · exact .inl written
    · exact .inr written

/-- A key that gives a point of the curve is read exactly where trimming leaves one of its texts. -/
theorem ofText_eq_ok_iff {s : String} :
    ofText s = .ok key ↔ onCurve key.octets = true ∧ Text.trim s ∈ key.texts := by
  rw [trim_mem_texts_iff, ofText]
  cases decodeBase64 .publicKey s with
  | error reason => simp [bind, Except.bind]
  | ok bytes =>
    simp only [bind, Except.bind, Except.ok.injEq, exists_eq_left']
    cases octetsOfBytes? bytes with
    | none => simp
    | some octets =>
      rw [Option.bind_some, Option.some.injEq, ← ofOctets?_eq_some_iff]
      cases ofOctets? octets with
      | none => simp
      | some other => simp

end PublicKey

namespace PrivateKey

def texts (key : PrivateKey) : List String :=
  [key.toSeedText, key.toFileText]

def versionElement : Der.Element :=
  ⟨Der.integerTag, [1]⟩

/-- The element around the seed. -/
def innerElement (key : PrivateKey) : Der.Element :=
  ⟨Der.octetStringTag, key.seed.bytes⟩

/-- The element of a key file that holds the seed, with another one around it. -/
def seedElement (key : PrivateKey) : Der.Element :=
  ⟨Der.octetStringTag, key.innerElement.toBytes⟩

/-- The element of a key file that repeats the public key. -/
def publicKeyElement (key : PrivateKey) : Der.Element :=
  ⟨publicKeyTag, 0 :: key.publicKey.octets.bytes⟩

def fileContent (key : PrivateKey) : Bytes :=
  versionElement.toBytes ++ (PublicKey.algorithmElement.toBytes ++ (key.seedElement.toBytes ++
    key.publicKeyElement.toBytes))

variable {key : PrivateKey}

theorem toFile_eq (key : PrivateKey) :
    key.toFile = (Der.Element.mk Der.sequenceTag key.fileContent).toBytes := by
  simp only [toFile, fileContent, versionElement, seedElement, innerElement, publicKeyElement,
    List.append_assoc]

theorem length_content_seedElement (key : PrivateKey) : key.seedElement.content.length = 34 := by
  have count : key.innerElement.content.length = 32 := key.seed.length_eq
  rw [seedElement, Der.length_toBytes_of_short (by omega), count]

theorem length_content_publicKeyElement (key : PrivateKey) :
    key.publicKeyElement.content.length = 33 :=
  congrArg (· + 1) key.publicKey.octets.length_eq

theorem writable_versionElement : versionElement.Writable :=
  .of_short Der.isTag_integerTag (by decide)

theorem writable_seedElement (key : PrivateKey) : key.seedElement.Writable :=
  .of_short Der.isTag_octetStringTag (by rw [length_content_seedElement]; decide)

theorem writable_publicKeyElement (key : PrivateKey) : key.publicKeyElement.Writable :=
  .of_short (show Der.isTag publicKeyTag = true by decide)
    (by rw [length_content_publicKeyElement]; decide)

theorem length_fileContent (key : PrivateKey) : key.fileContent.length = 81 := by
  have seed := length_content_seedElement key
  have repeated := length_content_publicKeyElement key
  have version : versionElement.toBytes.length = 3 := rfl
  have algorithm : PublicKey.algorithmElement.toBytes.length = 7 := rfl
  simp only [fileContent, List.length_append, version, algorithm,
    Der.length_toBytes_of_short (e := key.seedElement) (by omega),
    Der.length_toBytes_of_short (e := key.publicKeyElement) (by omega), seed, repeated]

theorem writable_file (key : PrivateKey) :
    (Der.Element.mk Der.sequenceTag key.fileContent).Writable :=
  .of_short Der.isTag_sequenceTag (by rw [length_fileContent]; decide)

theorem length_toFile (key : PrivateKey) : key.toFile.length = 83 := by
  have short : key.fileContent.length < 0x80 := by
    rw [length_fileContent]
    decide
  rw [toFile_eq, Der.length_toBytes_of_short short, length_fileContent]

theorem read?_publicKeyElement (key : PrivateKey) :
    Der.read? key.publicKeyElement.toBytes = some (key.publicKeyElement, []) :=
  Der.read?_eq_some_iff.mpr ⟨writable_publicKeyElement key, (List.append_nil _).symm⟩

/-- A public key is no attribute. -/
theorem skipAttributes_publicKeyElement (key : PrivateKey) :
    skipAttributes key.publicKeyElement.toBytes = some key.publicKeyElement.toBytes := by
  have other : (Der.isContextual publicKeyTag && Der.tagNumber publicKeyTag == 0) = false := by
    decide
  rw [skipAttributes]
  split
  · next e rest found =>
    have pair := Option.some.inj ((read?_publicKeyElement key).symm.trans found)
    obtain ⟨rfl, rfl⟩ := Prod.mk.inj pair
    rw [publicKeyElement, other, if_neg Bool.false_ne_true]
  · next missing =>
    rw [read?_publicKeyElement key] at missing
    cases missing

theorem readPublicKey?_publicKeyElement (key : PrivateKey) :
    readPublicKey? key.publicKeyElement.toBytes = some (some key.publicKey.octets, []) := by
  have isNext : (Der.isContextual publicKeyTag && Der.tagNumber publicKeyTag == 1) = true := by
    decide
  simp only [readPublicKey?, read?_publicKeyElement]
  simp only [publicKeyElement, isNext, if_true, Octets.ofBytes?_bytes, Option.map_some]

theorem areExtensions_nil : areExtensions [] = true := by
  rw [areExtensions]
  rfl

theorem seedOfContent?_seedElement (key : PrivateKey) :
    seedOfContent? key.seedElement.content = some key.seed := by
  have written : key.seedElement.content = 0x04 :: 0x20 :: key.seed.bytes := by
    rw [seedElement, innerElement, Der.Element.toBytes, key.seed.length_eq]
    rfl
  rw [written]
  exact Octets.ofBytes?_bytes key.seed

/-- A key file is read as the key that wrote it. -/
theorem ofFile?_toFile (key : PrivateKey) : ofFile? key.toFile = some key := by
  rw [toFile_eq]
  simp only [ofFile?, Option.bind_eq_bind, Option.bind_eq_some_iff, Prod.exists,
    Der.readAll?_eq_some_iff, Der.expect?_eq_some_iff, Option.ite_none_right_eq_some]
  refine ⟨_, ⟨writable_file key, rfl⟩, _, _, ⟨writable_versionElement, rfl⟩, _, _,
    ⟨PublicKey.writable_algorithmElement, rfl⟩, _, ⟨PublicKey.writable_identifier, rfl⟩, _, _,
    ⟨writable_seedElement key, rfl⟩, _, skipAttributes_publicKeyElement key, _, _,
    readPublicKey?_publicKeyElement key, _, seedOfContent?_seedElement key, ?_, rfl⟩
  simp [areExtensions_nil, publicKey]

theorem ofText_of_trim_mem_texts {s : String} (written : Text.trim s ∈ key.texts) :
    ofText s = .ok key := by
  simp only [texts, List.mem_cons, List.not_mem_nil, or_false] at written
  rcases written with seed | file
  · have bytes : decodeBase64 .privateKey s = .ok key.seed.bytes := decodeBase64_eq_ok_iff.mpr seed
    simp only [ofText, bytes, bind, Except.bind, ofBytes?, Octets.ofBytes?_bytes]
  · have bytes : decodeBase64 .privateKey s = .ok key.toFile := decodeBase64_eq_ok_iff.mpr file
    have noSeed : Octets.ofBytes? 32 key.toFile = none := by
      apply Octets.ofBytes?_eq_none
      rw [length_toFile]
      decide
    simp only [ofText, bytes, bind, Except.bind, ofBytes?, noSeed, ofFile?_toFile]

end PrivateKey

/-- There is no white space around the base64 form of bytes. -/
theorem trim_toBase64 (bytes : Bytes) :
    Text.trim (Bytes.toBase64 bytes) = Bytes.toBase64 bytes :=
  decodeBase64_eq_ok_iff.mp (decodeBase64_toBase64 .publicKey bytes)

theorem PrivateKey.trim_of_mem_texts {key : PrivateKey} {text : String}
    (written : text ∈ key.texts) : Text.trim text = text := by
  simp only [texts, List.mem_cons, List.not_mem_nil, or_false] at written
  rcases written with rfl | rfl
  · exact trim_toBase64 _
  · exact trim_toBase64 _

theorem PublicKey.trim_of_mem_texts {key : PublicKey} {text : String} (written : text ∈ key.texts) :
    Text.trim text = text := by
  simp only [texts, List.mem_cons, List.not_mem_nil, or_false] at written
  rcases written with rfl | rfl
  · exact trim_toBase64 _
  · exact trim_toBase64 _

/-- The texts of a key are interchangeable, with any white space around them.

Each text that a private key writes is read as that key, with its seed and its public half, and what
is signed under it has the one signature of the key. A public key that gives a point of the curve is
read from its two texts and from no other text, and what is checked under either has the one answer
of the key, for all messages and all texts that are to be signatures. -/
theorem ofText_padded {before after : String} (blankBefore : Text.isBlank before = true)
    (blankAfter : Text.isBlank after = true) :
    (∀ key : PrivateKey, ∀ text ∈ key.texts,
      let padded := before ++ text ++ after
      PrivateKey.ofText padded = .ok key ∧
        ∀ message, Cryptography.standard.sign padded message = .ok (key.sign message)) ∧
    (∀ key : PublicKey, PublicKey.onCurve key.octets = true →
      (∀ s, PublicKey.ofText s = .ok key ↔ Text.trim s ∈ key.texts) ∧
      ∀ text ∈ key.texts,
        let padded := before ++ text ++ after
        PublicKey.ofText padded = .ok key ∧
          ∀ message signature, Cryptography.standard.verify padded message signature =
            (key.check message signature).isOk) := by
  constructor
  · intro key text written padded
    have trimmed : Text.trim padded = text :=
      (Text.trim_padded blankBefore blankAfter text).trans (PrivateKey.trim_of_mem_texts written)
    have reads : PrivateKey.ofText padded = .ok key :=
      PrivateKey.ofText_of_trim_mem_texts (trimmed ▸ written)
    exact ⟨reads, fun message => PrivateKey.sign_standard reads message⟩
  · intro key point
    have readsWhere : ∀ s, PublicKey.ofText s = .ok key ↔ Text.trim s ∈ key.texts := by
      intro s
      rw [PublicKey.ofText_eq_ok_iff]
      exact and_iff_right point
    refine ⟨readsWhere, ?_⟩
    intro text written padded
    have trimmed : Text.trim padded = text :=
      (Text.trim_padded blankBefore blankAfter text).trans (PublicKey.trim_of_mem_texts written)
    have reads : PublicKey.ofText padded = .ok key := (readsWhere padded).mpr (trimmed ▸ written)
    refine ⟨reads, ?_⟩
    intro message signature
    rw [PrivateKey.verify_standard, checkSignature, reads]
    rfl

/-- A key file between an em space and a line end is the seed 32 times 7, and the base point of the
curve is a public key. -/
theorem ofText_padded_of_file :
    let before := "\u2003"
    let after := " \n"
    let own : PrivateKey := ⟨⟨List.replicate 32 7, rfl⟩⟩
    let key : PublicKey := ⟨⟨0x58 :: List.replicate 31 0x66, rfl⟩⟩
    Text.isBlank before = true ∧ Text.isBlank after = true ∧
      PublicKey.onCurve key.octets = true ∧
      PrivateKey.ofText (before ++ own.toFileText ++ after) = .ok own ∧
      PublicKey.ofText (before ++ key.toFileText ++ after) = .ok key ∧
      Cryptography.standard.sign (before ++ own.toFileText ++ after) [] =
        Cryptography.standard.sign (before ++ own.toSeedText ++ after) [] := by
  intro before after own key
  have blankBefore : Text.isBlank before = true := by decide
  have blankAfter : Text.isBlank after = true := by decide
  have point : PublicKey.onCurve key.octets = true := by decide +kernel
  have ownFile : own.toFileText ∈ own.texts := List.mem_cons_of_mem _ List.mem_cons_self
  have keyFile : key.toFileText ∈ key.texts := List.mem_cons_of_mem _ List.mem_cons_self
  obtain ⟨privates, publics⟩ := ofText_padded blankBefore blankAfter
  obtain ⟨reads, signsFile⟩ := privates own own.toFileText ownFile
  obtain ⟨_, signsSeed⟩ := privates own own.toSeedText List.mem_cons_self
  obtain ⟨_, readsKey⟩ := publics key point
  refine ⟨blankBefore, blankAfter, point, reads, (readsKey _ keyFile).1, ?_⟩
  exact (signsFile []).trans (signsSeed []).symm

end EvidenceLedger
