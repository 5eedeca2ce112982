import Marengo.Journal.Roundtrip

/-!
# One body for every tree

The encoder reserves exactly the bytes that the writer lays out (`Datum.serialize_fits`), so its size
check never fails. The reader accepts nothing else than what the writer lays out
(`Reader.value_parsed`), so a tree has one body, and writing the tree again gives that body back.
Whatever the bytes are, the reader stays inside them and counts at most one field more than the
capacity (`Bounded`).
-/

namespace Marengo

theorem writeLength_succeeds {n : ℕ} (h : n < 2 ^ 32) : writeLength n = .ok (leBytes 4 n) := if_pos h

theorem writeBlob_succeeds (tag : UInt8) {data : List UInt8} (h : data.length < 2 ^ 32) :
    writeBlob tag data = .ok (tag :: leBytes 4 data.length ++ data) := by
  rw [writeBlob, writeLength_succeeds h]
  rfl

theorem length_blob (tag : UInt8) (n : ℕ) (data : List UInt8) :
    (tag :: leBytes 4 n ++ data).length = 5 + data.length := by
  simp
  omega

mutual

/-- No length of a value within the limits overflows, and the writer lays out as many bytes as the
value takes. -/
theorem Value.Fits.writes {v : Value} {room : ℕ} (hfit : v.Fits room) (hsize : v.size < 2 ^ 32) :
    ∃ bytes, writeValue v = .ok bytes ∧ bytes.length = v.size := by
  match v, hfit with
  | .bool _, _ | .none, _ | .unit, _ => exact ⟨_, rfl, rfl⟩
  | .number _ _, _ => exact ⟨_, rfl, by simp [Value.size]; omega⟩
  | .string text, _ =>
    rw [Value.size] at hsize
    exact ⟨_, writeBlob_succeeds _ (by omega), length_blob ..⟩
  | .bytes data, _ =>
    rw [Value.size] at hsize
    exact ⟨_, writeBlob_succeeds _ (by omega), length_blob ..⟩
  | .some v, .some hv =>
    rw [Value.size] at hsize
    obtain ⟨bs, hbs, hlength⟩ := hv.writes (by omega)
    refine ⟨_, Except.bind_eq_ok.2 ⟨bs, hbs, rfl⟩, ?_⟩
    rw [List.length_cons, hlength, Value.size, Nat.add_comm]
  | .seq vs, .seq hlen hvs =>
    rw [Value.size] at hsize ⊢
    obtain ⟨bs, hbs, hlength⟩ := valuesWrite hvs (by omega)
    have hcount := writeLength_succeeds (hlen.trans_lt (by decide))
    exact ⟨_, Except.bind_eq_ok.2 ⟨_, hcount, Except.bind_eq_ok.2 ⟨bs, hbs, rfl⟩⟩,
      hlength ▸ length_blob ..⟩
  | .map fs, .map hlen _ hfs =>
    rw [Value.size] at hsize ⊢
    obtain ⟨bs, hbs, hlength⟩ := fieldsWrite hfs (by omega)
    have hcount := writeLength_succeeds (hlen.trans_lt (by decide))
    exact ⟨_, Except.bind_eq_ok.2 ⟨_, hcount, Except.bind_eq_ok.2 ⟨bs, hbs, rfl⟩⟩,
      hlength ▸ length_blob ..⟩

theorem valuesWrite {vs : List Value} {room : ℕ} (hfit : ∀ v ∈ vs, v.Fits room)
    (hsize : valuesSize vs < 2 ^ 32) :
    ∃ bytes, writeValues vs = .ok bytes ∧ bytes.length = valuesSize vs := by
  match vs with
  | [] => exact ⟨_, rfl, rfl⟩
  | v :: vs =>
    rw [valuesSize] at hsize ⊢
    obtain ⟨bs, hbs, hlength⟩ := (hfit v (.head _)).writes (by omega)
    obtain ⟨cs, hcs, hlength'⟩ := valuesWrite (fun w hw => hfit w (.tail _ hw)) (by omega)
    refine ⟨_, Except.bind_eq_ok.2 ⟨bs, hbs, Except.bind_eq_ok.2 ⟨cs, hcs, rfl⟩⟩, ?_⟩
    rw [List.length_append, hlength, hlength']

theorem fieldsWrite {fs : List (String × Value)} {room : ℕ} (hfit : ∀ f ∈ fs, f.2.Fits room)
    (hsize : fieldsSize fs < 2 ^ 32) :
    ∃ bytes, writeFields fs = .ok bytes ∧ bytes.length = fieldsSize fs := by
  match fs with
  | [] => exact ⟨_, rfl, rfl⟩
  | (key, v) :: fs =>
    rw [fieldsSize] at hsize ⊢
    have hname := writeBlob_succeeds 14 (show (utf8 key).length < 2 ^ 32 by omega)
    have hv : v.Fits room := hfit (key, v) (.head _)
    obtain ⟨bs, hbs, hlength⟩ := hv.writes (by omega)
    obtain ⟨cs, hcs, hlength'⟩ := fieldsWrite (fun f hf => hfit f (.tail _ hf)) (by omega)
    refine ⟨_, Except.bind_eq_ok.2 ⟨_, hname, Except.bind_eq_ok.2 ⟨bs, hbs,
      Except.bind_eq_ok.2 ⟨cs, hcs, rfl⟩⟩⟩, ?_⟩
    rw [List.length_append, List.length_append, length_blob, hlength, hlength']

end

/-! ## The encoder counts what the writer lays out -/

/-- **The size check of the encoder does not fail.** -/
theorem encode_of_serialize {d : Datum} {tree : Value} {b : Budget}
    (h : d.serialize 0 {} = (.ok tree, b)) :
    ∃ body, writeValue tree = .ok body ∧ body.length = b.bytes ∧ encode d = .ok (magic ++ body) := by
  obtain ⟨⟨hfit, -, -⟩, hbytes, hcap⟩ := d.serialize_fits h (Nat.zero_le _)
  have hbytes' : b.bytes = tree.size := by simpa using hbytes
  have hlimit : bodyCapacity - magic.length < 2 ^ 32 := by decide
  obtain ⟨body, hbody, hlength⟩ := hfit.writes (by omega)
  refine ⟨body, hbody, by omega, ?_⟩
  have hroom : magic.length ≤ bodyCapacity := by decide
  rw [encode, h]
  refine Except.bind_eq_ok.2 ⟨body, hbody, ?_⟩
  rw [if_neg (by omega)]

/-! ## The reader accepts what the writer lays out -/

/-- A number that was read stands for the bytes it was read from. -/
theorem leBytes_ofLeBytes {w : ℕ} {bytes : List UInt8} (h : bytes.length = w) :
    leBytes w (ofLeBytes bytes) = bytes := by
  have hbig := beBytes_ofBeBytes bytes.reverse
  rw [beBytes, ofBeBytes, List.reverse_reverse, List.length_reverse, h] at hbig
  exact List.reverse_injective hbig

namespace Reader

variable {r r' : Reader}

theorem take_ok {n : ℕ} {bytes : List UInt8} (h : take n r = (.ok bytes, r')) :
    bytes.length = n ∧ r.rest = bytes ++ r'.rest ∧ r'.nodes = r.nodes := by
  simp only [take, bind_eq_ok, read_eq_ok, ensure_eq_ok, update_eq_ok,
    pure_eq_ok] at h
  obtain ⟨_, _, ⟨rfl, rfl⟩, _, _, ⟨hlen, rfl⟩, _, _, rfl, rfl, rfl⟩ := h
  refine ⟨?_, ?_, rfl⟩
  · rw [List.length_take]
    omega
  · rw [List.take_append_drop]

theorem length_ok {n : ℕ} (h : length r = (.ok n, r')) :
    n < 2 ^ 32 ∧ r.rest = leBytes 4 n ++ r'.rest ∧ r'.nodes = r.nodes := by
  simp only [length, bind_eq_ok, pure_eq_ok] at h
  obtain ⟨bytes, _, htake, rfl, rfl⟩ := h
  obtain ⟨hlen, hrest, hnodes⟩ := take_ok htake
  have hlt := ofLeBytes_lt bytes
  rw [hlen] at hlt
  refine ⟨hlt.trans_le (by decide), ?_, hnodes⟩
  rw [leBytes_ofLeBytes hlen, hrest]

theorem count_ok {u : Unit} (h : count r = (.ok u, r')) :
    r'.rest = r.rest ∧ r'.nodes = r.nodes + 1 ∧ r'.nodes ≤ nodeCapacity := by
  simp only [count, bind_eq_ok, read_eq_ok, ensure_eq_ok, update_eq_ok] at h
  obtain ⟨_, _, rfl, _, _, ⟨rfl, rfl⟩, hcap, rfl⟩ := h
  exact ⟨rfl, rfl, hcap⟩

theorem fromUtf8_ok {bytes : List UInt8} {t : String}
    (h : fromUtf8 bytes r = (.ok t, r')) : utf8 t = bytes ∧ r' = r := by
  cases htext : String.fromUTF8? ⟨bytes.toArray⟩ with
  | none =>
    rw [fromUtf8, htext] at h
    cases h
  | some text =>
    rw [fromUtf8, htext] at h
    obtain ⟨rfl, rfl⟩ := pure_eq_ok.1 h
    refine ⟨?_, rfl⟩
    unfold String.fromUTF8? at htext
    split at htext
    · cases htext
      rfl
    · cases htext

theorem text_ok {t : String} (h : text r = (.ok t, r')) :
    (utf8 t).length < 2 ^ 32 ∧ r.rest = leBytes 4 (utf8 t).length ++ utf8 t ++ r'.rest ∧
      r'.nodes = r.nodes := by
  simp only [text, bind_eq_ok] at h
  obtain ⟨n, _, hlength, bytes, _, htake, htext⟩ := h
  obtain ⟨hlt, hrest, hnodes⟩ := length_ok hlength
  obtain ⟨hlen, hrest', hnodes'⟩ := take_ok htake
  obtain ⟨rfl, rfl⟩ := fromUtf8_ok htext
  refine ⟨hlen ▸ hlt, ?_, hnodes'.trans hnodes⟩
  rw [hrest, hrest', hlen, List.append_assoc]

end Reader

/-- What the reader has done when it returns a value: it has consumed the bytes that the writer lays
out for it and counted its fields, and the value is within the limits. -/
structure Parsed (room : ℕ) (v : Value) (r r' : Reader) : Prop where
  bytes : ∃ bs, writeValue v = .ok bs ∧ r.rest = bs ++ r'.rest
  nodes : r'.nodes = r.nodes + v.nodes
  capacity : r'.nodes ≤ nodeCapacity
  fits : v.Fits room

variable {r r' : Reader} {x : Reading Value}

/-- The elements of a sequence, one by one. -/
theorem Parsed.values {room : ℕ} (hx : ∀ {r v r'}, x r = (.ok v, r') → Parsed room v r r')
    {is : List ℕ} {vs : List Value} (hcap : r.nodes ≤ nodeCapacity)
    (h : traverse (fun _ => x) is r = (.ok vs, r')) :
    vs.length = is.length ∧ (∃ bs, writeValues vs = .ok bs ∧ r.rest = bs ++ r'.rest) ∧
      r'.nodes = r.nodes + valuesNodes vs ∧ r'.nodes ≤ nodeCapacity ∧ ∀ v ∈ vs, v.Fits room := by
  induction is generalizing vs r with
  | nil =>
    obtain ⟨rfl, rfl⟩ := pure_eq_ok.1 h
    exact ⟨rfl, ⟨[], rfl, rfl⟩, rfl, hcap, fun v hv => absurd hv List.not_mem_nil⟩
  | cons i is ih =>
    simp only [traverse, bind_eq_ok, pure_eq_ok] at h
    obtain ⟨v, r₁, hv, ws, r₂, hws, rfl, rfl⟩ := h
    have hparsed := hx hv
    obtain ⟨bs, hbs, hrest⟩ := hparsed.bytes
    obtain ⟨hlen, ⟨cs, hcs, hrest'⟩, hnodes, hcap', hfits⟩ := ih hparsed.capacity hws
    refine ⟨?_, ⟨bs ++ cs, ?_, ?_⟩, ?_, hcap', ?_⟩
    · rw [List.length_cons, List.length_cons, hlen]
    · exact Except.bind_eq_ok.2 ⟨bs, hbs, Except.bind_eq_ok.2 ⟨cs, hcs, rfl⟩⟩
    · rw [hrest, hrest', List.append_assoc]
    · rw [hnodes, hparsed.nodes, valuesNodes]
      omega
    · rw [List.forall_mem_cons]
      exact ⟨hparsed.fits, hfits⟩

/-- The fields of a map, one by one, each behind the ones before. -/
theorem Parsed.fields {room : ℕ} (hx : ∀ {r v r'}, x r = (.ok v, r') → Parsed room v r r') {n : ℕ}
    {previous : Option String} {acc fs : List (String × Value)} (hcap : r.nodes ≤ nodeCapacity)
    (hord : Ordered acc) (hlast : ∀ g ∈ acc, ∃ old ∈ previous, g.1 ≤ old)
    (h : Reader.fields x n previous acc r = (.ok fs, r')) :
    ∃ new, fs = acc ++ new ∧ new.length = n ∧ Ordered fs ∧
      (∃ bs, writeFields new = .ok bs ∧ r.rest = bs ++ r'.rest) ∧
      r'.nodes = r.nodes + fieldsNodes new ∧ r'.nodes ≤ nodeCapacity ∧
      ∀ f ∈ new, f.2.Fits room := by
  induction n generalizing previous acc r with
  | zero =>
    obtain ⟨rfl, rfl⟩ := pure_eq_ok.1 h
    exact ⟨[], (List.append_nil _).symm, rfl, hord, ⟨[], rfl, rfl⟩, rfl, hcap,
      fun f hf => absurd hf List.not_mem_nil⟩
  | succ n ih =>
    simp only [Reader.fields, bind_eq_ok, ensure_eq_ok] at h
    obtain ⟨w, r₁, hw, key, r₂, hkey, _, _, ⟨hnew, rfl⟩, v, r₃, hv, h⟩ := h
    obtain ⟨rfl, rfl⟩ : w = .string key ∧ r₂ = r₁ := by
      cases w <;> simp_all [Reader.fieldKey, pure_eq_ok, fail_eq_ok]
    have hname := hx hw
    have hvalue := hx hv
    have hbehind : ∀ g ∈ acc, g.1 < key := by
      intro g hg
      obtain ⟨old, hold, hle⟩ := hlast g hg
      exact hle.trans_lt (not_le.1 (hnew old hold))
    have hinsert : insertField key v acc = acc ++ [(key, v)] := insertField_last hbehind
    rw [hinsert] at h
    have hord' : Ordered (acc ++ [(key, v)]) := by
      rw [Ordered, List.pairwise_append]
      exact ⟨hord, List.pairwise_singleton _ _, fun g hg f hf =>
        List.mem_singleton.1 hf ▸ hbehind g hg⟩
    have hlast' : ∀ g ∈ acc ++ [(key, v)], ∃ old ∈ some key, g.1 ≤ old := by
      intro g hg
      refine ⟨key, rfl, ?_⟩
      rcases List.mem_append.1 hg with hg | hg
      · exact (hbehind g hg).le
      · rw [List.mem_singleton.1 hg]
    obtain ⟨new, rfl, hlen, hordered, ⟨cs, hcs, hrest⟩, hnodes, hcap', hfits⟩ :=
      ih hvalue.capacity hord' hlast' h
    obtain ⟨name, hnameBytes, hnameRest⟩ := hname.bytes
    obtain ⟨bs, hbs, hbsRest⟩ := hvalue.bytes
    refine ⟨(key, v) :: new, ?_, ?_, hordered, ⟨name ++ bs ++ cs, ?_, ?_⟩, ?_, hcap', ?_⟩
    · rw [List.append_assoc, List.singleton_append]
    · rw [List.length_cons, hlen]
    · exact Except.bind_eq_ok.2 ⟨name, hnameBytes, Except.bind_eq_ok.2 ⟨bs, hbs,
        Except.bind_eq_ok.2 ⟨cs, hcs, rfl⟩⟩⟩
    · rw [hnameRest, hbsRest, hrest, List.append_assoc, List.append_assoc]
    · have hone := hname.nodes
      rw [Value.nodes] at hone
      rw [hnodes, hvalue.nodes, hone, fieldsNodes]
      omega
    · rw [List.forall_mem_cons]
      exact ⟨hvalue.fits, hfits⟩

/-- The tag of a number names its type. -/
theorem Number.tag_of_ofTag {tag : ℕ} {kind : Number} (h : Number.ofTag tag = some kind) :
    tag = kind.tag := by
  unfold Number.ofTag at h
  split at h <;> cases h <;> rfl

/-- The programs that the tags select. -/
theorem Reader.payload_cases (x : Reading Value) (tag : ℕ) :
    (∃ kind, tag = Number.tag kind ∧ payload x tag = do
      let bytes ← take kind.width
      let bits := BitVec.ofNat (8 * kind.width) (ofLeBytes bytes)
      ensure (kind.isFinite bits.toNat) kind.nonfinite
      pure (.number kind bits)) ∨
    (tag = 0 ∧ payload x tag = pure (.bool false)) ∨
    (tag = 1 ∧ payload x tag = pure (.bool true)) ∨
    (tag = 14 ∧ payload x tag = do
      let t ← text
      pure (.string t)) ∨
    (tag = 15 ∧ payload x tag = do
      let n ← length
      let bytes ← take n
      pure (.bytes bytes)) ∨
    (tag = 16 ∧ payload x tag = do
      let n ← length
      ensure (n ≤ collectionCapacity) "collection capacity"
      let vs ← traverse (fun _ => x) (List.range n)
      pure (.seq vs)) ∨
    (tag = 17 ∧ payload x tag = do
      let n ← length
      ensure (n ≤ collectionCapacity) "field capacity"
      let fs ← fields x n none []
      pure (.map fs)) ∨
    (tag = 18 ∧ payload x tag = pure .none) ∨
    (tag = 19 ∧ payload x tag = do
      let v ← x
      pure (.some v)) ∨
    (tag = 20 ∧ payload x tag = pure .unit) ∨
    payload x tag = fail "unsupported tag" := by
  cases hkind : Number.ofTag tag with
  | some kind =>
    refine .inl ⟨kind, Number.tag_of_ofTag hkind, ?_⟩
    unfold payload
    rw [hkind]
  | none =>
    refine .inr ?_
    unfold payload
    rw [hkind]
    dsimp only
    split <;> simp

/-- What a tag and the program it selects have read. -/
theorem Parsed.payload {room : ℕ} (hx : ∀ {r v r'}, x r = (.ok v, r') → Parsed room v r r')
    {tag : UInt8} {v : Value} (hcap : r.nodes ≤ nodeCapacity)
    (h : Reader.payload x tag.toNat r = (.ok v, r')) :
    (∃ bs, writeValue v = .ok (tag :: bs) ∧ r.rest = bs ++ r'.rest) ∧
      r'.nodes + 1 = r.nodes + v.nodes ∧ r'.nodes ≤ nodeCapacity ∧ v.Fits (room + 1) := by
  have hbyte : ∀ {n : ℕ} {b : UInt8}, tag.toNat = n → b.toNat = n → b = tag := by
    intro n b htag hb
    exact UInt8.toNat_inj.1 (hb.trans htag.symm)
  rcases Reader.payload_cases x tag.toNat with ⟨kind, htag, hp⟩ | ⟨htag, hp⟩ | ⟨htag, hp⟩ |
    ⟨htag, hp⟩ | ⟨htag, hp⟩ | ⟨htag, hp⟩ | ⟨htag, hp⟩ | ⟨htag, hp⟩ | ⟨htag, hp⟩ | ⟨htag, hp⟩ | hp
  all_goals rw [hp] at h
  · -- a number
    simp only [bind_eq_ok, ensure_eq_ok, pure_eq_ok] at h
    obtain ⟨bytes, _, htake, _, _, ⟨hfinite, rfl⟩, rfl, rfl⟩ := h
    obtain ⟨hlen, hrest, hnodes⟩ := Reader.take_ok htake
    have hlt := ofLeBytes_lt bytes
    have hbits : (BitVec.ofNat (8 * kind.width) (ofLeBytes bytes)).toNat = ofLeBytes bytes := by
      rw [BitVec.toNat_ofNat, pow_mul]
      exact Nat.mod_eq_of_lt (hlen ▸ hlt)
    have hkind : (UInt8.ofNat kind.tag).toNat = kind.tag := by cases kind <;> rfl
    refine ⟨⟨bytes, ?_, hrest⟩, ?_, hnodes ▸ hcap, .number hfinite⟩
    · rw [writeValue, hbits, leBytes_ofLeBytes hlen, hbyte htag hkind]
    · rw [hnodes, Value.nodes]
  · obtain ⟨rfl, rfl⟩ := pure_eq_ok.1 h
    exact ⟨⟨[], by rw [← hbyte htag (b := 0) rfl]; rfl, rfl⟩, rfl, hcap, .bool _⟩
  · obtain ⟨rfl, rfl⟩ := pure_eq_ok.1 h
    exact ⟨⟨[], by rw [← hbyte htag (b := 1) rfl]; rfl, rfl⟩, rfl, hcap, .bool _⟩
  · -- a string
    simp only [bind_eq_ok, pure_eq_ok] at h
    obtain ⟨t, _, htext, rfl, rfl⟩ := h
    obtain ⟨hlt, hrest, hnodes⟩ := Reader.text_ok htext
    refine ⟨⟨_, ?_, hrest⟩, by rw [hnodes, Value.nodes], hnodes ▸ hcap, .string t⟩
    rw [← hbyte htag (b := 14) rfl]
    exact writeBlob_succeeds 14 hlt
  · -- bytes
    simp only [bind_eq_ok, pure_eq_ok] at h
    obtain ⟨n, _, hlength, bytes, _, htake, rfl, rfl⟩ := h
    obtain ⟨hlt, hrest, hnodes⟩ := Reader.length_ok hlength
    obtain ⟨rfl, hrest', hnodes'⟩ := Reader.take_ok htake
    have hsame := hnodes'.trans hnodes
    refine ⟨⟨leBytes 4 bytes.length ++ bytes, ?_, ?_⟩, by rw [hsame, Value.nodes], hsame ▸ hcap,
      .bytes bytes⟩
    · rw [← hbyte htag (b := 15) rfl]
      exact writeBlob_succeeds 15 hlt
    · rw [hrest, hrest', List.append_assoc]
  · -- a sequence
    simp only [bind_eq_ok, ensure_eq_ok, pure_eq_ok] at h
    obtain ⟨n, r₁, hlength, _, _, ⟨hn, rfl⟩, vs, _, hvs, rfl, rfl⟩ := h
    obtain ⟨hlt, hrest, hnodes⟩ := Reader.length_ok hlength
    obtain ⟨hlen, ⟨bs, hbs, hrest'⟩, hnodes', hcap', hfits⟩ :=
      Parsed.values hx (hnodes ▸ hcap) hvs
    rw [List.length_range] at hlen
    subst hlen
    refine ⟨⟨leBytes 4 vs.length ++ bs, ?_, ?_⟩, ?_, hcap', .seq hn hfits⟩
    · rw [← hbyte htag (b := 16) rfl]
      exact Except.bind_eq_ok.2 ⟨_, writeLength_succeeds hlt, Except.bind_eq_ok.2 ⟨bs, hbs, rfl⟩⟩
    · rw [hrest, hrest', List.append_assoc]
    · rw [hnodes', hnodes, Value.nodes]
      omega
  · -- a map
    simp only [bind_eq_ok, ensure_eq_ok, pure_eq_ok] at h
    obtain ⟨n, r₁, hlength, _, _, ⟨hn, rfl⟩, fs, _, hfs, rfl, rfl⟩ := h
    obtain ⟨hlt, hrest, hnodes⟩ := Reader.length_ok hlength
    obtain ⟨new, rfl, rfl, hord, ⟨bs, hbs, hrest'⟩, hnodes', hcap', hfits⟩ :=
      Parsed.fields hx (hnodes ▸ hcap) .nil (fun g hg => absurd hg List.not_mem_nil) hfs
    refine ⟨⟨leBytes 4 fs.length ++ bs, ?_, ?_⟩, ?_, hcap', .map hn hord hfits⟩
    · rw [← hbyte htag (b := 17) rfl]
      exact Except.bind_eq_ok.2 ⟨_, writeLength_succeeds hlt, Except.bind_eq_ok.2 ⟨bs, hbs, rfl⟩⟩
    · rw [hrest, hrest', List.append_assoc]
    · rw [hnodes', hnodes, Value.nodes]
      omega
  · obtain ⟨rfl, rfl⟩ := pure_eq_ok.1 h
    exact ⟨⟨[], by rw [← hbyte htag (b := 18) rfl]; rfl, rfl⟩, rfl, hcap, .none⟩
  · -- a value that is there
    simp only [bind_eq_ok, pure_eq_ok] at h
    obtain ⟨w, _, hw, rfl, rfl⟩ := h
    have hparsed := hx hw
    obtain ⟨bs, hbs, hrest⟩ := hparsed.bytes
    refine ⟨⟨bs, ?_, hrest⟩, ?_, hparsed.capacity, .some hparsed.fits⟩
    · rw [← hbyte htag (b := 19) rfl]
      exact Except.bind_eq_ok.2 ⟨bs, hbs, rfl⟩
    · rw [hparsed.nodes, Value.nodes]
      omega
  · obtain ⟨rfl, rfl⟩ := pure_eq_ok.1 h
    exact ⟨⟨[], by rw [← hbyte htag (b := 20) rfl]; rfl, rfl⟩, rfl, hcap, .unit⟩
  · cases h

/-- **The reader accepts only what the writer lays out.** -/
theorem Reader.value_parsed {room : ℕ} {v : Value}
    (h : Reader.value room r = (.ok v, r')) : Parsed room v r r' := by
  induction room generalizing v r r' with
  | zero =>
    simp only [Reader.value, bind_eq_ok, fail_eq_ok, exists_false, and_false] at h
  | succ room ih =>
    simp only [Reader.value, bind_eq_ok] at h
    obtain ⟨_, r₁, hcount, tags, r₂, htag, h⟩ := h
    obtain ⟨hsame, hcounted, hcap⟩ := count_ok hcount
    obtain ⟨hlen, hrest, hnodes⟩ := take_ok htag
    obtain ⟨tag, rfl⟩ := List.length_eq_one_iff.1 hlen
    rw [List.headD_cons] at h
    obtain ⟨⟨bs, hbs, hrest'⟩, hnodes', hcap', hfits⟩ := Parsed.payload ih (hnodes ▸ hcap) h
    refine ⟨⟨tag :: bs, hbs, ?_⟩, by omega, hcap', hfits⟩
    rw [← hsame, hrest, hrest']
    rfl

/-! ## The reader stays inside its bytes -/

/-- From a state within the capacity, the program leaves a rest of the bytes it was given and counts
at most one field more than the capacity, and none more if it returns. -/
def Bounded {α : Type} (x : Reading α) : Prop :=
  ∀ r : Reader, r.nodes ≤ nodeCapacity → (x r).2.rest <:+ r.rest ∧
    (x r).2.nodes ≤ nodeCapacity + 1 ∧ ∀ a, (x r).1 = .ok a → (x r).2.nodes ≤ nodeCapacity

namespace Bounded

variable {α β : Type} {x : Reading α} {f : α → Reading β}

theorem pure (a : α) : Bounded (Pure.pure a) :=
  fun _ hr => ⟨List.suffix_rfl, hr.trans (Nat.le_succ _), fun _ _ => hr⟩

theorem fail (e : CodecError) : Bounded (fail e : Reading α) :=
  fun _ hr => ⟨List.suffix_rfl, hr.trans (Nat.le_succ _), fun _ _ => hr⟩

theorem bind (hx : Bounded x) (hf : ∀ a, Bounded (f a)) : Bounded (x >>= f) := by
  intro r hr
  obtain ⟨hrest, hnodes, hok⟩ := hx r hr
  rcases hresult : x r with ⟨e | a, r₁⟩
  · have hbind : (x >>= f) r = (.error e, r₁) := by
      simp only [Bind.bind, hresult]
    rw [hresult] at hrest hnodes
    rw [hbind]
    exact ⟨hrest, hnodes, fun _ h => by cases h⟩
  · have hbind : (x >>= f) r = f a r₁ := by
      simp only [Bind.bind, hresult]
    rw [hresult] at hrest hok
    obtain ⟨hrest', hnodes', hok'⟩ := hf a r₁ (hok a rfl)
    rw [hbind]
    exact ⟨hrest'.trans hrest, hnodes', hok'⟩

theorem ensure (P : Prop) [Decidable P] (e : CodecError) :
    Bounded (ensure P e : Reading Unit) := by
  unfold Prog.ensure
  split
  · exact .pure ()
  · exact .fail e

theorem take (n : ℕ) : Bounded (Reader.take n) := by
  intro r hr
  by_cases hn : n ≤ r.rest.length
  · have htake : Reader.take n r = (.ok (r.rest.take n), { r with rest := r.rest.drop n }) := by
      simp [Reader.take, bind_eq_ok, read_eq_ok, ensure_eq_ok, update_eq_ok,
        pure_eq_ok, hn]
    rw [htake]
    exact ⟨List.drop_suffix _ _, hr.trans (Nat.le_succ _), fun _ _ => hr⟩
  · have htake : Reader.take n r = (.error "truncated field", r) := by
      simp only [Reader.take, Prog.ensure_neg hn, Bind.bind, read, Prog.fail]
    rw [htake]
    exact ⟨List.suffix_rfl, hr.trans (Nat.le_succ _), fun _ _ => hr⟩

theorem length : Bounded Reader.length := (take 4).bind fun _ => .pure _

theorem count : Bounded Reader.count := by
  intro r hr
  by_cases hn : r.nodes + 1 ≤ nodeCapacity
  · have hcount : Reader.count r = (.ok (), { r with nodes := r.nodes + 1 }) := by
      simp [Reader.count, bind_eq_ok, read_eq_ok, ensure_eq_ok, update_eq_ok, hn]
    rw [hcount]
    exact ⟨List.suffix_rfl, hn.trans (Nat.le_succ _), fun _ _ => hn⟩
  · have hcount : Reader.count r = (.error "decode capacity", { r with nodes := r.nodes + 1 }) := by
      simp only [Reader.count, Bind.bind, read, update, Prog.ensure_neg hn, Prog.fail]
    rw [hcount]
    exact ⟨List.suffix_rfl, Nat.succ_le_succ hr, fun _ h => by cases h⟩

theorem fromUtf8 (bytes : List UInt8) : Bounded (Reader.fromUtf8 bytes) := by
  unfold Reader.fromUtf8
  split
  · exact .pure _
  · exact .fail _

theorem text : Bounded Reader.text := length.bind fun n => (take n).bind fun bytes => fromUtf8 bytes

variable {x : Reading Value}

theorem traverse (hx : Bounded x) (is : List ℕ) : Bounded (traverse (fun _ => x) is) := by
  induction is with
  | nil => exact .pure []
  | cons i is ih => exact hx.bind fun _ => ih.bind fun _ => .pure _

theorem fields (hx : Bounded x) (n : ℕ) (previous : Option String)
    (acc : List (String × Value)) : Bounded (Reader.fields x n previous acc) := by
  induction n generalizing previous acc with
  | zero => exact .pure acc
  | succ n ih =>
    refine hx.bind fun w => Bounded.bind ?_ fun key => (ensure _ _).bind fun _ =>
      hx.bind fun v => ih _ _
    cases w with
    | string key => exact .pure key
    | _ => exact .fail _

theorem payload (hx : Bounded x) (tag : ℕ) : Bounded (Reader.payload x tag) := by
  rcases Reader.payload_cases x tag with ⟨kind, -, hp⟩ | ⟨-, hp⟩ | ⟨-, hp⟩ | ⟨-, hp⟩ | ⟨-, hp⟩ |
    ⟨-, hp⟩ | ⟨-, hp⟩ | ⟨-, hp⟩ | ⟨-, hp⟩ | ⟨-, hp⟩ | hp
  all_goals rw [hp]
  · exact (take _).bind fun _ => (ensure _ _).bind fun _ => .pure _
  · exact .pure _
  · exact .pure _
  · exact text.bind fun _ => .pure _
  · exact length.bind fun n => (take n).bind fun _ => .pure _
  · exact length.bind fun n => (ensure _ _).bind fun _ => (hx.traverse _).bind fun _ => .pure _
  · exact length.bind fun n => (ensure _ _).bind fun _ => (hx.fields _ _ _).bind fun _ => .pure _
  · exact .pure _
  · exact hx.bind fun _ => .pure _
  · exact .pure _
  · exact .fail _

theorem value (room : ℕ) : Bounded (Reader.value room) := by
  induction room with
  | zero => exact count.bind fun _ => .fail _
  | succ room ih => exact count.bind fun _ => (take 1).bind fun _ => ih.payload _

end Bounded

/-! ## Bodies -/

/-- What the reader has accepted of a body. -/
theorem readTree_parsed {bytes : List UInt8} {v : Value} (h : readTree bytes = .ok v) :
    ∃ body, bytes = magic ++ body ∧ bytes.length ≤ bodyCapacity ∧ writeValue v = .ok body ∧
      v.Fits (depthCapacity + 1) ∧ v.nodes ≤ nodeCapacity := by
  unfold readTree at h
  split at h
  · cases h
  · rename_i hlimit
    obtain ⟨hlen, hmagic⟩ : bytes.length ≤ bodyCapacity ∧ magic.isPrefixOf bytes = true := by
      simpa [not_or] using hlimit
    rcases hread : Reader.value (depthCapacity + 1) ⟨bytes.drop magic.length, 0⟩ with ⟨_ | w, r⟩
    · rw [hread] at h
      cases h
    · rw [hread] at h
      dsimp only at h
      split at h
      · rename_i hend
        cases h
        have hparsed := Reader.value_parsed hread
        obtain ⟨body, hbody, hrest⟩ := hparsed.bytes
        obtain ⟨tail, rfl⟩ := List.isPrefixOf_iff_prefix.1 hmagic
        rw [List.drop_left, hend, List.append_nil] at hrest
        have hnodes := hparsed.nodes
        refine ⟨body, congrArg (magic ++ ·) hrest, hlen, hbody, hparsed.fits, ?_⟩
        rw [Nat.zero_add] at hnodes
        exact hnodes ▸ hparsed.capacity
      · cases h

/-- **One body for each tree.** What the encoder writes is read back as the same tree; the writer lays
out exactly the bytes that the serializer has reserved, so the size check of `encode` never fails; a
body that is accepted is the one that the writer lays out for its tree, and no other body is read as
that tree. Whatever the bytes are, the reader stays inside them and within its capacities. A typed
body that is accepted is the encoding of the value that it gives, and an encoding is accepted where
the type reads back what it writes. -/
theorem codec_canonical :
    (∀ (d : Datum) (bytes : List UInt8), encode d = .ok bytes →
      ∃ tree b, d.serialize 0 {} = (.ok tree, b) ∧ readTree bytes = .ok tree) ∧
    (∀ (d : Datum) (tree : Value) (b : Budget), d.serialize 0 {} = (.ok tree, b) →
      ∃ body, writeValue tree = .ok body ∧ body.length = b.bytes ∧
        encode d = .ok (magic ++ body)) ∧
    (∀ (bytes : List UInt8) (v : Value), readTree bytes = .ok v →
      (∃ body, writeValue v = .ok body ∧ magic ++ body = bytes) ∧
      ∀ bytes', readTree bytes' = .ok v → bytes' = bytes) ∧
    (∀ bytes : List UInt8,
      (Reader.value (depthCapacity + 1) ⟨bytes.drop magic.length, 0⟩).2.rest <:+ bytes ∧
      (Reader.value (depthCapacity + 1) ⟨bytes.drop magic.length, 0⟩).2.nodes ≤ nodeCapacity + 1 ∧
      ∀ v, readTree bytes = .ok v →
        bytes.length ≤ bodyCapacity ∧ v.Fits (depthCapacity + 1) ∧ v.nodes ≤ nodeCapacity) ∧
    (∀ (α : Type) (serde : Serde α) (bytes : List UInt8) (a : α),
      (decode serde bytes = .ok a → encode (serde.serialize a) = .ok bytes) ∧
      (encode (serde.serialize a) = .ok bytes →
        (∀ tree, readTree bytes = .ok tree → serde.deserialize tree = .ok a) →
          decode serde bytes = .ok a)) := by
  refine ⟨fun d bytes h => readTree_encode h, fun d tree b h => encode_of_serialize h, ?_, ?_, ?_⟩
  · intro bytes v h
    obtain ⟨body, hbytes, -, hbody, -⟩ := readTree_parsed h
    refine ⟨⟨body, hbody, hbytes.symm⟩, fun bytes' h' => ?_⟩
    obtain ⟨body', hbytes', -, hbody', -⟩ := readTree_parsed h'
    rw [hbody] at hbody'
    cases hbody'
    rw [hbytes, hbytes']
  · intro bytes
    obtain ⟨hrest, hnodes, -⟩ := Bounded.value (depthCapacity + 1) ⟨bytes.drop magic.length, 0⟩
      (Nat.zero_le _)
    refine ⟨hrest.trans (List.drop_suffix _ _), hnodes, fun v h => ?_⟩
    obtain ⟨-, -, hlen, -, hfit, hcap⟩ := readTree_parsed h
    exact ⟨hlen, hfit, hcap⟩
  · intro α serde bytes a
    refine ⟨decode_ok, fun hencode hserde => ?_⟩
    obtain ⟨tree, b, -, hread⟩ := readTree_encode hencode
    refine Except.bind_eq_ok.2 ⟨tree, hread, Except.bind_eq_ok.2 ⟨a, hserde tree hread,
      Except.bind_eq_ok.2 ⟨bytes, hencode, ?_⟩⟩⟩
    rw [if_pos rfl]
    rfl

/-- A flag is written as one byte after the version and read back. -/
theorem codec_canonical_flag :
    encode (.bool true) = .ok (magic ++ [1]) ∧ readTree (magic ++ [1]) = .ok (.bool true) := by
  obtain ⟨body, hbody, -, hencode⟩ := codec_canonical.2.1 (.bool true) (.bool true) ⟨1, 1⟩ rfl
  cases hbody
  refine ⟨hencode, ?_⟩
  obtain ⟨tree, b, htree, hread⟩ := codec_canonical.1 _ _ hencode
  cases htree
  exact hread

end Marengo
