import Marengo.Journal.Codec

/-!
# The reader inverts the encoder

Every body that `encode` returns is read back as the tree it was written from
(`readTree_encode`), although the encoder and the reader count fields, depth and collections in
separate code. The argument meets in the middle at `Value.Fits`: a value the encoder returns fits
the levels that are left (`Datum.serialize_fits`), and the reader accepts the bytes of any value
that does (`Reader.value_reads`).
-/

namespace Marengo

/-! ## Values within the limits -/

mutual

/-- The values and keys that a value consists of. -/
def Value.nodes : Value → ℕ
  | .seq values => 1 + valuesNodes values
  | .map fields => 1 + fieldsNodes fields
  | .some value => 1 + value.nodes
  | .bool _ | .number _ _ | .string _ | .bytes _ | .none | .unit => 1

/-- The values and keys of the elements of a sequence. -/
def valuesNodes : List Value → ℕ
  | [] => 0
  | v :: vs => v.nodes + valuesNodes vs

/-- The values and keys of the fields of a map. -/
def fieldsNodes : List (String × Value) → ℕ
  | [] => 0
  | (_, v) :: fields => 1 + v.nodes + fieldsNodes fields

end

abbrev Ordered (fields : List (String × Value)) : Prop := fields.Pairwise fun f g => f.1 < g.1

/-- A value fits in `room` levels: its floats are finite, its collections are within the capacity
and its maps are ordered. -/
inductive Value.Fits : ℕ → Value → Prop
  | bool {room : ℕ} (b : Bool) : Fits (room + 1) (.bool b)
  | number {room : ℕ} {kind : Number} {bits : BitVec (8 * kind.width)} :
      kind.isFinite bits.toNat → Fits (room + 1) (.number kind bits)
  | string {room : ℕ} (text : String) : Fits (room + 1) (.string text)
  | bytes {room : ℕ} (data : List UInt8) : Fits (room + 1) (.bytes data)
  | none {room : ℕ} : Fits (room + 1) .none
  | unit {room : ℕ} : Fits (room + 1) .unit
  | some {room : ℕ} {v : Value} : Fits room v → Fits (room + 1) (.some v)
  | seq {room : ℕ} {vs : List Value} :
      vs.length ≤ collectionCapacity → (∀ v ∈ vs, Fits room v) → Fits (room + 1) (.seq vs)
  | map {room : ℕ} {fs : List (String × Value)} :
      fs.length ≤ collectionCapacity → Ordered fs → (∀ f ∈ fs, Fits room f.2) →
        Fits (room + 1) (.map fs)

variable {v : Value}

/-- Every value takes a level. -/
theorem Value.Fits.pos {room : ℕ} (h : v.Fits room) : 0 < room := by
  cases h <;> exact Nat.succ_pos _

/-- More levels do no harm. -/
theorem Value.Fits.mono {room room' : ℕ} (h : v.Fits room) (hle : room ≤ room') : v.Fits room' := by
  induction h generalizing room' with
  | bool b => obtain ⟨r, rfl⟩ := Nat.exists_eq_add_of_lt hle; exact .bool b
  | number hf => obtain ⟨r, rfl⟩ := Nat.exists_eq_add_of_lt hle; exact .number hf
  | string t => obtain ⟨r, rfl⟩ := Nat.exists_eq_add_of_lt hle; exact .string t
  | bytes d => obtain ⟨r, rfl⟩ := Nat.exists_eq_add_of_lt hle; exact .bytes d
  | none => obtain ⟨r, rfl⟩ := Nat.exists_eq_add_of_lt hle; exact .none
  | unit => obtain ⟨r, rfl⟩ := Nat.exists_eq_add_of_lt hle; exact .unit
  | some _ ih => obtain ⟨r, rfl⟩ := Nat.exists_eq_add_of_lt hle; exact .some (ih (by omega))
  | seq hl _ ih =>
    obtain ⟨r, rfl⟩ := Nat.exists_eq_add_of_lt hle
    exact .seq hl fun v hv => ih v hv (by omega)
  | map hl ho _ ih =>
    obtain ⟨r, rfl⟩ := Nat.exists_eq_add_of_lt hle
    exact .map hl ho fun f hf => ih f hf (by omega)

/-! ## Insertion into a map -/

section Insertion

variable {key : String} {v : Value} {fields : List (String × Value)}

theorem mem_insertField {f : String × Value} :
    f ∈ insertField key v fields ↔ f = (key, v) ∨ f ∈ fields := by
  induction fields with
  | nil => simp [insertField]
  | cons g gs ih =>
    rw [insertField]
    split
    · simp
    · simp only [List.mem_cons, ih]
      tauto

theorem length_insertField : (insertField key v fields).length = fields.length + 1 := by
  induction fields with
  | nil => rfl
  | cons g gs ih =>
    rw [insertField]
    split
    · rfl
    · simp [ih]

theorem fieldsNodes_insertField :
    fieldsNodes (insertField key v fields) = fieldsNodes fields + (1 + v.nodes) := by
  induction fields with
  | nil => simp [insertField, fieldsNodes]
  | cons g gs ih =>
    rw [insertField]
    split
    · simp only [fieldsNodes]; omega
    · simp only [fieldsNodes, ih]; omega

/-- A map stays ordered. -/
theorem ordered_insertField (h : Ordered fields) (hnew : ∀ f ∈ fields, f.1 ≠ key) :
    Ordered (insertField key v fields) := by
  induction fields with
  | nil => simp [insertField, Ordered]
  | cons g gs ih =>
    obtain ⟨hg, hgs⟩ := List.pairwise_cons.1 h
    rw [insertField]
    split
    · rename_i hlt
      refine List.pairwise_cons.2 ⟨fun f hf => ?_, h⟩
      rcases List.mem_cons.1 hf with rfl | hf
      · exact hlt
      · exact hlt.trans (hg f hf)
    · rename_i hge
      refine List.pairwise_cons.2 ⟨fun f hf => ?_, ih hgs fun f hf => hnew f (.tail _ hf)⟩
      rcases mem_insertField.1 hf with rfl | hf
      · exact lt_of_le_of_ne (not_lt.1 hge) (hnew g (.head _))
      · exact hg f hf

/-- A key above all others goes last. -/
theorem insertField_last (h : ∀ f ∈ fields, f.1 < key) :
    insertField key v fields = fields ++ [(key, v)] := by
  induction fields with
  | nil => rfl
  | cons g gs ih =>
    rw [insertField, if_neg (not_lt.2 (h g (.head _)).le), ih fun f hf => h f (.tail _ hf)]
    rfl

theorem lookup_insertField_self (hnew : ∀ f ∈ fields, f.1 ≠ key) :
    (insertField key v fields).lookup key = some v := by
  induction fields with
  | nil => simp [insertField]
  | cons g gs ih =>
    have hg : (key == g.1) = false := beq_eq_false_iff_ne.2 (hnew g (.head _)).symm
    rw [insertField]
    split
    · simp
    · rw [List.lookup_cons, hg]
      exact ih fun f hf => hnew f (.tail _ hf)

theorem lookup_insertField_ne {key' : String} (hne : key' ≠ key) :
    (insertField key v fields).lookup key' = fields.lookup key' := by
  have hkey : (key' == key) = false := beq_eq_false_iff_ne.2 hne
  induction fields with
  | nil => simp [insertField, List.lookup_cons, hkey]
  | cons g gs ih =>
    rw [insertField]
    split
    · rw [List.lookup_cons, hkey]
    · rw [List.lookup_cons, List.lookup_cons, ih]

end Insertion

/-! ## Sizes -/

mutual

def Value.size : Value → ℕ
  | .bool _ | .none | .unit => 1
  | .number kind _ => 1 + kind.width
  | .string text => 5 + (utf8 text).length
  | .bytes data => 5 + data.length
  | .seq values => 5 + valuesSize values
  | .map fields => 5 + fieldsSize fields
  | .some value => 1 + value.size

def valuesSize : List Value → ℕ
  | [] => 0
  | v :: vs => v.size + valuesSize vs

def fieldsSize : List (String × Value) → ℕ
  | [] => 0
  | (key, v) :: fields => 5 + (utf8 key).length + v.size + fieldsSize fields

end

theorem length_utf8 (text : String) : (utf8 text).length = text.utf8ByteSize := rfl

theorem valuesSize_append (vs : List Value) (v : Value) :
    valuesSize (vs ++ [v]) = valuesSize vs + v.size := by
  induction vs with
  | nil => simp [valuesSize]
  | cons w ws ih =>
    rw [List.cons_append, valuesSize, valuesSize, ih]
    omega

variable {key : String}

theorem fieldsSize_insertField {fields : List (String × Value)} :
    fieldsSize (insertField key v fields) =
      fieldsSize fields + (5 + (utf8 key).length + v.size) := by
  induction fields with
  | nil => simp [insertField, fieldsSize]
  | cons f fields ih =>
    obtain ⟨k, w⟩ := f
    rw [insertField]
    split
    · rw [fieldsSize, fieldsSize]
      omega
    · rw [fieldsSize, fieldsSize, ih]
      omega

/-! ## The encoder stays within the limits -/

namespace Encoder

/-- The budget has counted some bytes. -/
def Charged (size : ℕ) (b b' : Budget) : Prop :=
  b'.bytes = b.bytes + size ∧ b'.bytes ≤ bodyCapacity - magic.length

/-- A reservation takes one field of the budget, and its bytes. -/
theorem reserve_ok {n : ℕ} {u : Unit} {b b' : Budget} (h : reserve n b = (.ok u, b')) :
    b'.nodes = b.nodes + 1 ∧ b'.nodes ≤ nodeCapacity ∧ Charged n b b' := by
  simp only [reserve, bind_eq_ok, read_eq_ok, ensure_eq_ok, update_eq_ok] at h
  obtain ⟨a, t, ⟨rfl, rfl⟩, _, _, ⟨hbytes, rfl⟩, _, _, ⟨hn, rfl⟩, rfl⟩ := h
  exact ⟨rfl, hn, rfl, hbytes⟩

theorem child_ok {depth depth' : ℕ} {b b' : Budget} (h : child depth b = (.ok depth', b')) :
    depth' = depth + 1 ∧ depth' ≤ depthCapacity ∧ b' = b := by
  simp only [child, bind_eq_ok, ensure_eq_ok, pure_eq_ok] at h
  obtain ⟨_, _, ⟨hd, rfl⟩, rfl, rfl⟩ := h
  exact ⟨rfl, hd, rfl⟩

theorem keyText_ok {v : Value} {key : String} {b b' : Budget}
    (h : keyText v b = (.ok key, b')) : v = .string key ∧ b' = b := by
  cases v <;> simp_all [keyText, pure_eq_ok, fail_eq_ok]

end Encoder

/-- What the encoder promises of a value it returns: it fits the levels below the depth, and the
budget has counted its fields. -/
def Encoded (depth : ℕ) (v : Value) (b b' : Budget) : Prop :=
  v.Fits (depthCapacity + 1 - depth) ∧ b'.nodes = b.nodes + v.nodes ∧ b'.nodes ≤ nodeCapacity

open Encoder

variable {b b' : Budget}

/-- A value without nested values is encoded by one reservation. -/
theorem leaf_ok {depth n : ℕ} {v w : Value}
    (h : (do reserve n; pure v : Encoding Value) b = (.ok w, b')) (hd : depth ≤ depthCapacity)
    (hv : v.Fits 1) (hn : v.nodes = 1) (hsize : v.size = n) :
    Encoded depth w b b' ∧ Charged w.size b b' := by
  simp only [bind_eq_ok, pure_eq_ok] at h
  obtain ⟨_, _, hr, rfl, rfl⟩ := h
  obtain ⟨hb, hc, hcharged⟩ := reserve_ok hr
  exact ⟨⟨hv.mono (by omega), by rw [hb, hn], hc⟩, hsize ▸ hcharged⟩

/-- The elements of a sequence encoded so far, on top of `base` fields of the budget. -/
structure Elements (depth base : ℕ) (vs : List Value) (b : Budget) : Prop where
  length : vs.length ≤ collectionCapacity
  fits : ∀ v ∈ vs, v.Fits (depthCapacity + 1 - depth)
  nodes : b.nodes = base + valuesNodes vs
  capacity : b.nodes ≤ nodeCapacity

/-- The fields of a map encoded so far, on top of `base` fields of the budget. -/
structure Members (depth base : ℕ) (fs : List (String × Value)) (b : Budget) : Prop where
  length : fs.length ≤ collectionCapacity
  ordered : Ordered fs
  fits : ∀ f ∈ fs, f.2.Fits (depthCapacity + 1 - depth)
  nodes : b.nodes = base + fieldsNodes fs
  capacity : b.nodes ≤ nodeCapacity

theorem valuesNodes_append (vs : List Value) (v : Value) :
    valuesNodes (vs ++ [v]) = valuesNodes vs + v.nodes := by
  induction vs with
  | nil => simp [valuesNodes]
  | cons w ws ih =>
    rw [List.cons_append, valuesNodes, valuesNodes, ih]
    omega

theorem Elements.snoc {depth base : ℕ} {vs : List Value}
    (h : Elements depth base vs b) (hlen : vs.length ≠ collectionCapacity)
    (hv : Encoded depth v b b') : Elements depth base (vs ++ [v]) b' where
  length := by
    have := h.length
    simp only [List.length_append, List.length_singleton]
    omega
  fits w hw := by
    rcases List.mem_append.1 hw with hw | hw
    · exact h.fits w hw
    · exact List.mem_singleton.1 hw ▸ hv.1
  nodes := by rw [hv.2.1, h.nodes, valuesNodes_append]; omega
  capacity := hv.2.2

/-- One more field, whose key the budget has counted. -/
theorem Members.insert {depth base : ℕ} {fs : List (String × Value)}
    {b b₁ b' : Budget} (h : Members depth base fs b) (hb : b₁.nodes = b.nodes + 1)
    (hlen : fs.length ≠ collectionCapacity) (hnew : ∀ f ∈ fs, f.1 ≠ key)
    (hv : Encoded depth v b₁ b') : Members depth base (insertField key v fs) b' where
  length := by
    have := h.length
    rw [length_insertField]
    omega
  ordered := ordered_insertField h.ordered hnew
  fits f hf := by
    rcases mem_insertField.1 hf with rfl | hf
    · exact hv.1
    · exact h.fits f hf
  nodes := by rw [hv.2.1, hb, h.nodes, fieldsNodes_insertField]; omega
  capacity := hv.2.2

/-- A collection that has been announced and opened. -/
theorem opened_ok {length : Option ℕ} {e : CodecError} {depth d : ℕ} {u u' : Unit}
    {b b₁ b₂ b₃ : Budget} (hl : checkLength length e b = (.ok u, b₁))
    (hr : reserve 5 b₁ = (.ok u', b₂)) (hc : child depth b₂ = (.ok d, b₃)) :
    d = depth + 1 ∧ d ≤ depthCapacity ∧ b₃.nodes = b.nodes + 1 ∧ b₃.nodes ≤ nodeCapacity ∧
      Charged 5 b b₃ := by
  obtain ⟨-, rfl⟩ := ensure_eq_ok.1 hl
  obtain ⟨hb, hcap, hcharged⟩ := reserve_ok hr
  obtain ⟨hd, hdepth, rfl⟩ := child_ok hc
  exact ⟨hd, hdepth, hb, hcap, hcharged⟩

/-- The levels below a nested value. -/
theorem room_succ {depth : ℕ} (h : depth + 1 ≤ depthCapacity) :
    depthCapacity + 1 - depth = depthCapacity + 1 - (depth + 1) + 1 := by omega

/-- A map, given what becomes of its fields. -/
theorem map_ok {length : Option ℕ} {e : CodecError} {depth d : ℕ} {u u' : Unit}
    {b b₁ b₂ b₃ b' : Budget} {fs : List (String × Value)} (hl : checkLength length e b = (.ok u, b₁))
    (hr : reserve 5 b₁ = (.ok u', b₂)) (hc : child depth b₂ = (.ok d, b₃))
    (hfs : d ≤ depthCapacity → Members d (b.nodes + 1) [] b₃ →
      b₃.bytes ≤ bodyCapacity - magic.length → Members d (b.nodes + 1) fs b' ∧
        b'.bytes + fieldsSize [] = b₃.bytes + fieldsSize fs ∧
        b'.bytes ≤ bodyCapacity - magic.length) :
    Encoded depth (.map fs) b b' ∧ Charged (Value.map fs).size b b' := by
  obtain ⟨rfl, hdepth, hb, hcap, hstart, hroom⟩ := opened_ok hl hr hc
  obtain ⟨⟨hlen, hord, hfit, hn, hcap⟩, hbytes, hroom⟩ :=
    hfs hdepth ⟨by simp, .nil, by simp, hb, hcap⟩ hroom
  refine ⟨⟨room_succ hdepth ▸ .map hlen hord hfit, ?_, hcap⟩, ?_, hroom⟩
  · rw [hn, Value.nodes]
    omega
  · rw [fieldsSize] at hbytes
    rw [Value.size]
    omega

mutual

/-- Every value the encoder returns is within the limits of the reader, and the encoder has reserved
the bytes that the value takes. -/
theorem Datum.serialize_fits (d : Datum) {depth : ℕ} {b b' : Budget} {v : Value}
    (h : d.serialize depth b = (.ok v, b')) (hd : depth ≤ depthCapacity) :
    Encoded depth v b b' ∧ Charged v.size b b' := by
  match d with
  | .bool _ | .bytes _ | .none | .unit =>
    rw [Datum.serialize] at h
    exact leaf_ok h hd (by constructor) rfl rfl
  | .str _ | .unitVariant _ =>
    rw [Datum.serialize, string] at h
    exact leaf_ok h hd (by constructor) rfl rfl
  | .number kind bits =>
    rw [Datum.serialize] at h
    obtain ⟨_, t, hf, h⟩ := bind_eq_ok.1 h
    obtain ⟨finite, rfl⟩ := ensure_eq_ok.1 hf
    exact leaf_ok h hd (.number finite) rfl rfl
  | .char _ | .newtypeVariant _ | .tupleVariant _ | .structVariant _ =>
    rw [Datum.serialize, fail_eq_ok] at h
    exact h.elim
  | .some d =>
    simp only [Datum.serialize, bind_eq_ok, pure_eq_ok] at h
    obtain ⟨_, _, hr, _, _, hc, w, _, hw, rfl, rfl⟩ := h
    obtain ⟨hb, _, hstart, -⟩ := reserve_ok hr
    obtain ⟨rfl, hdepth, rfl⟩ := child_ok hc
    obtain ⟨⟨hfit, hn, hcap⟩, hbytes, hroom⟩ := d.serialize_fits hw hdepth
    refine ⟨⟨room_succ hdepth ▸ .some hfit, ?_, hcap⟩, ?_, hroom⟩
    · rw [hn, hb, Value.nodes]
      omega
    · rw [hbytes, hstart, Value.size]
      omega
  | .newtypeStruct d =>
    simp only [Datum.serialize, bind_eq_ok] at h
    obtain ⟨_, _, hc, hv⟩ := h
    obtain ⟨rfl, hdepth, rfl⟩ := child_ok hc
    obtain ⟨⟨hfit, hn, hcap⟩, hcharged⟩ := d.serialize_fits hv hdepth
    exact ⟨⟨hfit.mono (by omega), hn, hcap⟩, hcharged⟩
  | .seq _ ds =>
    simp only [Datum.serialize, bind_eq_ok, pure_eq_ok] at h
    obtain ⟨_, _, hl, _, _, hr, _, _, hc, vs, _, hvs, rfl, rfl⟩ := h
    obtain ⟨rfl, hdepth, hb, hcap, hstart, hroom⟩ := opened_ok hl hr hc
    have hnil : Elements (depth + 1) (b.nodes + 1) [] _ := ⟨by simp, by simp, hb, hcap⟩
    obtain ⟨⟨hlen, hfit, hn, hcap⟩, hbytes, hroom⟩ := serializeElements_fits ds hvs hdepth hnil hroom
    refine ⟨⟨room_succ hdepth ▸ .seq hlen hfit, ?_, hcap⟩, ?_, hroom⟩
    · rw [hn, Value.nodes]
      omega
    · rw [valuesSize] at hbytes
      rw [Value.size]
      omega
  | .map _ es =>
    simp only [Datum.serialize, bind_eq_ok, pure_eq_ok] at h
    obtain ⟨_, _, hl, _, _, hr, _, _, hc, fs, _, hfs, rfl, rfl⟩ := h
    exact map_ok hl hr hc fun hdepth => serializeEntries_fits es hfs hdepth
  | .struct _ ds =>
    simp only [Datum.serialize, bind_eq_ok, pure_eq_ok] at h
    obtain ⟨_, _, hl, _, _, hr, _, _, hc, fs, _, hfs, rfl, rfl⟩ := h
    exact map_ok hl hr hc fun hdepth => serializeFields_fits ds hfs hdepth

theorem serializeElements_fits (ds : List Datum) {depth base : ℕ} {b b' : Budget}
    {vs ws : List Value} (h : serializeElements ds depth vs b = (.ok ws, b'))
    (hd : depth ≤ depthCapacity) (hvs : Elements depth base vs b)
    (hroom : b.bytes ≤ bodyCapacity - magic.length) : Elements depth base ws b' ∧
      b'.bytes + valuesSize vs = b.bytes + valuesSize ws ∧ b'.bytes ≤ bodyCapacity - magic.length := by
  match ds with
  | [] =>
    obtain ⟨rfl, rfl⟩ := pure_eq_ok.1 h
    exact ⟨hvs, rfl, hroom⟩
  | d :: ds =>
    simp only [serializeElements, bind_eq_ok, ensure_eq_ok] at h
    obtain ⟨_, _, ⟨hlen, rfl⟩, v, _, hv, h⟩ := h
    obtain ⟨hencoded, hv, hroom⟩ := d.serialize_fits hv hd
    obtain ⟨hws, hbytes, hroom⟩ := serializeElements_fits ds h hd (hvs.snoc hlen hencoded) hroom
    rw [valuesSize_append] at hbytes
    exact ⟨hws, by omega, hroom⟩

theorem serializeEntries_fits (es : List (Datum × Datum)) {depth base : ℕ} {b b' : Budget}
    {fs gs : List (String × Value)} (h : serializeEntries es depth fs b = (.ok gs, b'))
    (hd : depth ≤ depthCapacity) (hfs : Members depth base fs b)
    (hroom : b.bytes ≤ bodyCapacity - magic.length) : Members depth base gs b' ∧
      b'.bytes + fieldsSize fs = b.bytes + fieldsSize gs ∧ b'.bytes ≤ bodyCapacity - magic.length := by
  match es with
  | [] =>
    obtain ⟨rfl, rfl⟩ := pure_eq_ok.1 h
    exact ⟨hfs, rfl, hroom⟩
  | (k, d) :: es =>
    simp only [serializeEntries, checkField, bind_eq_ok, ensure_eq_ok] at h
    obtain ⟨w, _, hk, key, _, hkey, _, _, ⟨⟨hlen, hnew⟩, rfl⟩, v, _, hv, h⟩ := h
    obtain ⟨rfl, rfl⟩ := keyText_ok hkey
    obtain ⟨⟨-, hb, -⟩, hk, -⟩ := k.serialize_fits hk hd
    obtain ⟨hencoded, hv, hroom⟩ := d.serialize_fits hv hd
    obtain ⟨hgs, hbytes, hroom⟩ :=
      serializeEntries_fits es h hd (hfs.insert hb hlen hnew hencoded) hroom
    rw [fieldsSize_insertField] at hbytes
    rw [Value.size] at hk
    exact ⟨hgs, by omega, hroom⟩

theorem serializeFields_fits (ds : List (String × Datum)) {depth base : ℕ} {b b' : Budget}
    {fs gs : List (String × Value)} (h : serializeFields ds depth fs b = (.ok gs, b'))
    (hd : depth ≤ depthCapacity) (hfs : Members depth base fs b)
    (hroom : b.bytes ≤ bodyCapacity - magic.length) : Members depth base gs b' ∧
      b'.bytes + fieldsSize fs = b.bytes + fieldsSize gs ∧ b'.bytes ≤ bodyCapacity - magic.length := by
  match ds with
  | [] =>
    obtain ⟨rfl, rfl⟩ := pure_eq_ok.1 h
    exact ⟨hfs, rfl, hroom⟩
  | (key, d) :: ds =>
    simp only [serializeFields, string, checkField, bind_eq_ok, ensure_eq_ok] at h
    obtain ⟨_, _, hr, _, _, ⟨⟨hlen, hnew⟩, rfl⟩, v, _, hv, h⟩ := h
    obtain ⟨hb, -, hk, -⟩ := reserve_ok hr
    obtain ⟨hencoded, hv, hroom⟩ := d.serialize_fits hv hd
    obtain ⟨hgs, hbytes, hroom⟩ :=
      serializeFields_fits ds h hd (hfs.insert hb hlen hnew hencoded) hroom
    rw [fieldsSize_insertField, length_utf8] at hbytes
    exact ⟨hgs, by omega, hroom⟩

end

/-! ## Fields of a struct -/

/-- A field that is in the map stays as it is. -/
theorem serializeFields_keeps {ds : List (String × Datum)} {depth : ℕ}
    {fs gs : List (String × Value)}
    (h : serializeFields ds depth fs b = (.ok gs, b')) (hv : fs.lookup key = some v) :
    gs.lookup key = some v := by
  induction ds generalizing fs b with
  | nil =>
    obtain ⟨rfl, rfl⟩ := pure_eq_ok.1 h
    exact hv
  | cons d ds ih =>
    simp only [serializeFields, checkField, bind_eq_ok, ensure_eq_ok] at h
    obtain ⟨_, _, _, _, _, ⟨⟨_, hnew⟩, rfl⟩, w, _, _, h⟩ := h
    refine ih h ?_
    rw [lookup_insertField_ne, hv]
    rintro rfl
    obtain ⟨fs₁, fs₂, rfl, -⟩ := List.lookup_eq_some_iff.1 hv
    exact hnew (_, v) (by simp) rfl

/-- Every field of a struct is in the map, as its own datum was encoded. -/
theorem serializeFields_lookup {ds : List (String × Datum)} {depth : ℕ}
    {fs gs : List (String × Value)} {d : Datum}
    (h : serializeFields ds depth fs b = (.ok gs, b')) (hd : (key, d) ∈ ds) :
    ∃ v b₁ b₂, d.serialize depth b₁ = (.ok v, b₂) ∧ gs.lookup key = some v := by
  induction ds generalizing fs b with
  | nil => exact absurd hd List.not_mem_nil
  | cons e ds ih =>
    simp only [serializeFields, checkField, bind_eq_ok, ensure_eq_ok] at h
    obtain ⟨_, _, _, _, _, ⟨⟨_, hnew⟩, rfl⟩, w, _, hw, h⟩ := h
    rcases List.mem_cons.1 hd with rfl | hd
    · exact ⟨w, _, _, hw, serializeFields_keeps h (lookup_insertField_self hnew)⟩
    · exact ih h hd

/-- A number is encoded as itself. -/
theorem Datum.serialize_number {kind : Number} {bits : BitVec (8 * kind.width)} {depth : ℕ}
    (h : (Datum.number kind bits).serialize depth b = (.ok v, b')) :
    v = .number kind bits := by
  simp only [Datum.serialize, bind_eq_ok, pure_eq_ok] at h
  obtain ⟨_, _, _, _, _, _, rfl, _⟩ := h
  rfl

/-! ## What the writer lays out -/

variable {bytes : List UInt8}

theorem writeLength_ok {n : ℕ} (h : writeLength n = .ok bytes) :
    n < 2 ^ 32 ∧ bytes = leBytes 4 n := by
  unfold writeLength at h
  split at h
  · cases h
    exact ⟨‹_›, rfl⟩
  · cases h

theorem writeBlob_ok {tag : UInt8} {data bytes : List UInt8} (h : writeBlob tag data = .ok bytes) :
    data.length < 2 ^ 32 ∧ bytes = tag :: leBytes 4 data.length ++ data := by
  obtain ⟨length, hl, h⟩ := Except.bind_eq_ok.1 h
  obtain ⟨hlt, rfl⟩ := writeLength_ok hl
  cases h
  exact ⟨hlt, rfl⟩

/-! ## What the reader accepts -/

/-- The reader program `x` consumes exactly `bytes`, counts `nodes` fields and returns `a`. -/
def Reads {α : Type} (x : Reading α) (bytes : List UInt8) (nodes : ℕ) (a : α) : Prop :=
  ∀ rest k, k + nodes ≤ nodeCapacity → x ⟨bytes ++ rest, k⟩ = (.ok a, ⟨rest, k + nodes⟩)

namespace Reads

variable {α β : Type} {x : Reading α} {f : α → Reading β} {bs cs : List UInt8} {m n : ℕ} {a : α}
  {c : β}

theorem pure (a : α) : Reads (Pure.pure a) [] 0 a := fun _ _ _ => rfl

theorem bind (hx : Reads x bs m a) (hf : Reads (f a) cs n c) :
    Reads (x >>= f) (bs ++ cs) (m + n) c := by
  intro rest k hk
  refine bind_eq_ok.2 ⟨a, ⟨cs ++ rest, k + m⟩, ?_, ?_⟩
  · rw [List.append_assoc]
    exact hx _ _ (by omega)
  · rw [hf _ _ (by omega)]
    simp [Nat.add_assoc]

/-- `bind`, followed by a program that reads no further. -/
theorem map (hx : Reads x bs m a) (g : α → β) :
    Reads (do let v ← x; Pure.pure (g v)) bs m (g a) := by
  have := hx.bind (f := fun v => Pure.pure (g v)) (Reads.pure (g a))
  simpa using this

theorem ensure {P : Prop} [Decidable P] {e : CodecError} {y : Unit → Reading β} (hP : P)
    (hy : Reads (y ()) cs n c) : Reads (ensure P e >>= y) cs n c :=
  fun rest k hk => bind_eq_ok.2 ⟨(), _, ensure_eq_ok.2 ⟨hP, rfl⟩, hy rest k hk⟩

theorem take (bs : List UInt8) : Reads (Reader.take bs.length) bs 0 bs := by
  intro rest k _
  simp [Reader.take, bind_eq_ok, read_eq_ok, ensure_eq_ok, update_eq_ok,
    pure_eq_ok]

theorem length {n : ℕ} (h : n < 2 ^ 32) : Reads Reader.length (leBytes 4 n) 0 n := by
  have hread := (take (leBytes 4 n)).map ofLeBytes
  rwa [length_leBytes, ofLeBytes_leBytes (by omega)] at hread

theorem count : Reads Reader.count [] 1 () := by
  intro rest k hk
  simp [Reader.count, bind_eq_ok, read_eq_ok, ensure_eq_ok, update_eq_ok, hk]

theorem fromUtf8 (t : String) : Reads (Reader.fromUtf8 (utf8 t)) [] 0 t := by
  have valid : String.fromUTF8? ⟨(utf8 t).toArray⟩ = some t := by
    simp only [utf8, String.fromUTF8?, String.toUTF8, Array.toArray_toList]
    exact dif_pos t.isValidUTF8
  rw [Reader.fromUtf8, valid]
  exact .pure t

theorem text (t : String) (h : (utf8 t).length < 2 ^ 32) :
    Reads Reader.text (leBytes 4 (utf8 t).length ++ utf8 t) 0 t := by
  have := (take (utf8 t)).bind (fromUtf8 t)
  rw [List.append_nil] at this
  exact (length h).bind (f := fun n => Reader.take n >>= Reader.fromUtf8) this

end Reads

variable {x : Reading Value}

/-- The reader reads one level: the tag, then the program `x` that the tag selects. -/
theorem Reads.value {room n : ℕ} (tag : UInt8) {bs : List UInt8}
    (htag : Reader.payload (Reader.value room) tag.toNat = x) (h : Reads x bs n v) :
    Reads (Reader.value (room + 1)) (tag :: bs) (1 + n) v := by
  subst x
  have hread : Reads (Reader.take 1) [tag] 0 [tag] := Reads.take [tag]
  have := Reads.count.bind (f := fun _ => do
    let tag ← Reader.take 1
    Reader.payload (Reader.value room) (tag.headD 0).toNat) (hread.bind h)
  simpa [Reader.value] using this

/-- A count, then what it announces. -/
theorem Reads.counted {n m : ℕ} {x : ℕ → Reading Value} {bs : List UInt8}
    (hn : n < 2 ^ 32) (h : Reads (x n) bs m v) :
    Reads (Reader.length >>= x) (leBytes 4 n ++ bs) m v := by
  simpa using (Reads.length hn).bind h

/-- A number of a type that keeps its width. -/
theorem Reads.number {kind : Number} {bits : BitVec (8 * kind.width)} {child : Reading Value}
    (finite : kind.isFinite bits.toNat) :
    Reads (Reader.payload child kind.tag) (leBytes kind.width bits.toNat) 0
      (.number kind bits) := by
  have fit : bits.toNat < 256 ^ kind.width := by
    have := bits.isLt
    rwa [pow_mul] at this
  have exact : BitVec.ofNat (8 * kind.width) (ofLeBytes (leBytes kind.width bits.toNat)) = bits := by
    rw [ofLeBytes_leBytes fit, BitVec.ofNat_toNat, BitVec.setWidth_eq]
  have hread := Reads.take (leBytes kind.width bits.toNat)
  rw [length_leBytes] at hread
  have := hread.bind (f := fun bytes => do
    let bits := BitVec.ofNat (8 * kind.width) (ofLeBytes bytes)
    Prog.ensure (kind.isFinite bits.toNat) kind.nonfinite
    Pure.pure (Value.number kind bits)) (c := .number kind bits)
    (by rw [exact]; exact .ensure finite (.pure _))
  simpa [Reader.payload] using this

/-- The elements of a sequence are read in order. -/
theorem Reads.values {vs : List Value} {is : List ℕ}
    (hx : ∀ v ∈ vs, ∀ bs, writeValue v = .ok bs → Reads x bs v.nodes v)
    (hw : writeValues vs = .ok bytes) (his : is.length = vs.length) :
    Reads (traverse (fun _ => x) is) bytes (valuesNodes vs) vs := by
  induction vs generalizing bytes is with
  | nil =>
    obtain rfl := List.length_eq_zero_iff.1 his
    cases hw
    exact .pure []
  | cons v vs ih =>
    obtain _ | ⟨i, is⟩ := is
    · cases his
    obtain ⟨bs, hbs, hw⟩ := Except.bind_eq_ok.1 hw
    obtain ⟨cs, hcs, hw⟩ := Except.bind_eq_ok.1 hw
    cases hw
    have htail := ih (fun w hw => hx w (.tail _ hw)) hcs (Nat.succ.inj his)
    exact (hx v (.head _) bs hbs).bind (htail.map (v :: ·))

/-- The fields of an ordered map are read in order. -/
theorem Reads.fields {fs acc : List (String × Value)} {previous : Option String}
    (hkey : ∀ f ∈ fs, ∀ bs, writeValue (.string f.1) = .ok bs → Reads x bs 1 (.string f.1))
    (hx : ∀ f ∈ fs, ∀ bs, writeValue f.2 = .ok bs → Reads x bs f.2.nodes f.2)
    (hw : writeFields fs = .ok bytes) (hord : Ordered fs)
    (hprev : ∀ old ∈ previous, ∀ f ∈ fs, old < f.1) (hacc : ∀ g ∈ acc, ∀ f ∈ fs, g.1 < f.1) :
    Reads (Reader.fields x fs.length previous acc) bytes (fieldsNodes fs) (acc ++ fs) := by
  induction fs generalizing acc bytes previous with
  | nil =>
    cases hw
    rw [List.append_nil]
    exact .pure acc
  | cons f fs ih =>
    obtain ⟨key, v⟩ := f
    obtain ⟨name, hname, hw⟩ := Except.bind_eq_ok.1 hw
    obtain ⟨bs, hbs, hw⟩ := Except.bind_eq_ok.1 hw
    obtain ⟨cs, hcs, hw⟩ := Except.bind_eq_ok.1 hw
    cases hw
    obtain ⟨hlater, hfs⟩ := List.pairwise_cons.1 hord
    have hlast : insertField key v acc = acc ++ [(key, v)] :=
      insertField_last fun g hg => hacc g hg _ (.head _)
    have hlater' : ∀ g ∈ acc ++ [(key, v)], ∀ f ∈ fs, g.1 < f.1 := by
      intro g hg f hf
      rcases List.mem_append.1 hg with hg | hg
      · exact hacc g hg f (.tail _ hf)
      · exact List.mem_singleton.1 hg ▸ hlater f hf
    have htail := ih (fun f hf => hkey f (.tail _ hf)) (fun f hf => hx f (.tail _ hf)) hcs hfs
      (fun old hold f hf => Option.mem_some.1 hold ▸ hlater f hf) hlater'
    rw [List.append_assoc, List.singleton_append, ← hlast] at htail
    have hrest := (hx _ (.head _) bs hbs).bind
      (f := fun v => Reader.fields x fs.length (some key) (insertField key v acc)) htail
    have hnew : ∀ old ∈ previous, ¬key ≤ old := fun old hold => not_le.2 (hprev old hold _ (.head _))
    have hread : Reads (Reader.fields x (fs.length + 1) previous acc)
        (name ++ (bs ++ cs)) (1 + (v.nodes + fieldsNodes fs)) (acc ++ (key, v) :: fs) := by
      refine (hkey _ (.head _) name hname).bind ?_
      exact fun rest k hk => (Reads.ensure hnew hrest) rest k hk
    simpa [fieldsNodes, Nat.add_assoc] using hread

/-- The reader accepts the bytes of every value that fits. -/
theorem Reader.value_reads {room : ℕ} (hfit : v.Fits room)
    (hw : writeValue v = .ok bytes) : Reads (Reader.value room) bytes v.nodes v := by
  induction room generalizing v bytes with
  | zero => exact absurd hfit.pos (lt_irrefl 0)
  | succ room ih =>
    cases hfit with
    | bool b =>
      cases hw
      cases b
      · exact .value 0 rfl (.pure _)
      · exact .value 1 rfl (.pure _)
    | none =>
      cases hw
      exact .value 18 rfl (.pure _)
    | unit =>
      cases hw
      exact .value 20 rfl (.pure _)
    | @number _ kind bits finite =>
      cases hw
      have htag : (UInt8.ofNat kind.tag).toNat = kind.tag := by cases kind <;> rfl
      exact .value _ (by rw [htag]) (.number finite)
    | string text =>
      obtain ⟨hlt, rfl⟩ := writeBlob_ok hw
      exact .value 14 rfl ((Reads.text text hlt).map Value.string)
    | bytes data =>
      obtain ⟨hlt, rfl⟩ := writeBlob_ok hw
      exact .value 15 rfl (.counted hlt ((Reads.take data).map Value.bytes))
    | @some _ v hv =>
      obtain ⟨bs, hbs, h⟩ := Except.bind_eq_ok.1 hw
      cases h
      exact .value 19 rfl ((ih hv hbs).map Value.some)
    | @seq _ vs hlen hvs =>
      obtain ⟨ls, hls, h⟩ := Except.bind_eq_ok.1 hw
      obtain ⟨bs, hbs, h⟩ := Except.bind_eq_ok.1 h
      cases h
      obtain ⟨hlt, rfl⟩ := writeLength_ok hls
      have helements := Reads.values (fun v hv bs => ih (hvs v hv)) hbs List.length_range
      exact .value 16 rfl (.counted hlt (.ensure hlen (helements.map Value.seq)))
    | @map _ fs hlen hord hfs =>
      obtain ⟨ls, hls, h⟩ := Except.bind_eq_ok.1 hw
      obtain ⟨bs, hbs, h⟩ := Except.bind_eq_ok.1 h
      cases h
      obtain ⟨hlt, rfl⟩ := writeLength_ok hls
      have hmembers : Reads (Reader.fields (Reader.value room) fs.length none []) bs
          (fieldsNodes fs) fs := by
        refine Reads.fields (fun f hf bs hbs => ?_) (fun f hf bs => ih (hfs f hf)) hbs hord
          (by simp) (fun g hg => absurd hg List.not_mem_nil)
        obtain ⟨r, rfl⟩ := Nat.exists_eq_succ_of_ne_zero (hfs f hf).pos.ne'
        exact ih (.string f.1) hbs
      exact .value 17 rfl (.counted hlt (.ensure hlen (hmembers.map Value.map)))

/-- **A body is read as the tree it was written from.** -/
theorem readTree_encode {d : Datum} (h : encode d = .ok bytes) :
    ∃ tree b, d.serialize 0 {} = (.ok tree, b) ∧ readTree bytes = .ok tree := by
  unfold encode at h
  split at h
  · cases h
  · rename_i tree b hs
    obtain ⟨body, hw, h⟩ := Except.bind_eq_ok.1 h
    split at h
    · cases h
    · rename_i hsize
      cases h
      refine ⟨tree, b, hs, ?_⟩
      obtain ⟨⟨hfit, hn, hcap⟩, -⟩ := d.serialize_fits hs (Nat.zero_le _)
      have hread := Reader.value_reads hfit hw [] 0 (by simp at hn; omega)
      rw [List.append_nil] at hread
      have hlimit : ¬(bodyCapacity < (magic ++ body).length ∨ ¬magic.isPrefixOf (magic ++ body)) := by
        simp only [not_or, List.length_append, not_not] at hsize ⊢
        exact ⟨hsize.2, by simp⟩
      rw [readTree, if_neg hlimit, List.drop_left]
      exact hread ▸ rfl

/-- A body that decodes is the canonical encoding of its value. -/
theorem decode_ok {α : Type} {serde : Serde α} {a : α}
    (h : decode serde bytes = .ok a) : encode (serde.serialize a) = .ok bytes := by
  obtain ⟨_, _, h⟩ := Except.bind_eq_ok.1 h
  obtain ⟨_, _, h⟩ := Except.bind_eq_ok.1 h
  obtain ⟨canonical, hc, h⟩ := Except.bind_eq_ok.1 h
  split at h
  · rename_i heq
    cases h
    exact heq ▸ hc
  · cases h

end Marengo
