import DatabaseSchema.Json.Forms
import DatabaseSchema.Proofs.Json.Value

namespace DatabaseSchema

variable {α β γ : Type}

namespace Json

theorem sole?_of_mem {members : List (String × Json)} (hd : (members.map (·.1)).Nodup)
    {m : String × Json} (hm : m ∈ members) : sole? members m.1 = some m.2 := by
  have hfilter : members.filter (·.1 == m.1) = [m] := by
    induction members with
    | nil => cases hm
    | cons n members ih =>
        rw [List.map_cons, List.nodup_cons] at hd
        rcases List.mem_cons.mp hm with rfl | hm
        · have hnone : members.filter (·.1 == m.1) = [] := by
            refine List.filter_eq_nil_iff.mpr fun n hn heq => hd.1 ?_
            exact List.mem_map.mpr ⟨n, hn, beq_iff_eq.mp heq⟩
          rw [List.filter_cons, if_pos (beq_self_eq_true _), hnone]
        · have hne : ¬(n.1 == m.1) = true := by
            intro heq
            exact hd.1 (List.mem_map.mpr ⟨m, hm, (beq_iff_eq.mp heq).symm⟩)
          rw [List.filter_cons, if_neg hne, ih hd.2 hm]
  rw [sole?, hfilter]

theorem mapM_map_eq_some {f : α → β} {g : β → Option γ} {k : α → γ} {as : List α}
    (h : ∀ a ∈ as, g (f a) = some (k a)) : (as.map f).mapM g = some (as.map k) := by
  induction as with
  | nil => rfl
  | cons a as ih =>
      rw [List.map_cons, List.mapM_cons, h a List.mem_cons_self,
        ih fun b hb => h b (List.mem_cons_of_mem a hb)]
      rfl

theorem mapM_map {f : α → Json} {g : Json → Option α} (h : ∀ a, g (f a) = some a) (as : List α) :
    (as.map f).mapM g = some as := by
  rw [mapM_map_eq_some fun a _ => h a, List.map_id']

theorem record?_object {members : List (String × Json)} {names : List String}
    (hnames : members.map (·.1) = names) (hd : names.Nodup) :
    (object members).record? names = some (members.map (·.2)) := by
  subst hnames
  exact mapM_map_eq_some fun m hm => sole?_of_mem hd hm

theorem texts?_list (texts : List String) : (list (texts.map .text)).texts? = some texts :=
  mapM_map (f := Json.text) (g := text?) (fun _ => rfl) texts

theorem int32?_toInt (n : Int32) : (integer n.toInt).int32? = some n := by
  have hlo := n.le_toInt
  have hhi := n.toInt_lt
  simp only [int32?, int?, Option.bind_eq_bind, Option.bind_some]
  rw [if_pos (by omega), Int32.ofInt_toInt]

theorem int64?_toInt (n : Int64) : (integer n.toInt).int64? = some n := by
  have hlo := n.le_toInt
  have hhi := n.toInt_lt
  simp only [int64?, int?, Option.bind_eq_bind, Option.bind_some]
  rw [if_pos (by omega), Int64.ofInt_toInt]

end Json

open Json

theorem DataType.ofJson?_toJson (t : DataType) : ofJson? t.toJson = some t :=
  ofName?_name t

theorem Column.ofJson?_toJson (c : Column) : ofJson? c.toJson = some c := by
  unfold ofJson? toJson
  rw [record?_object]
  · simp only [List.map_cons, List.map_nil, Option.bind_eq_bind, Option.bind_some, text?, bool?,
      int32?_toInt, DataType.ofJson?_toJson, Option.pure_def]
  · rfl
  · decide

theorem Index.ofJson?_toJson (i : Index) : ofJson? i.toJson = some i := by
  unfold ofJson? toJson
  rw [record?_object]
  · simp only [List.map_cons, List.map_nil, Option.bind_eq_bind, Option.bind_some, text?, bool?,
      texts?_list, Option.pure_def]
  · rfl
  · decide

theorem TableSnapshot.ofJson?_toJson (t : TableSnapshot) : ofJson? t.toJson = some t := by
  unfold ofJson? toJson
  rw [record?_object]
  · simp only [List.map_cons, List.map_nil, Option.bind_eq_bind, Option.bind_some, text?, list?,
      mapM_map Column.ofJson?_toJson, mapM_map Index.ofJson?_toJson, texts?_list, Option.pure_def]
  · rfl
  · decide

theorem SchemaSnapshot.ofJson?_toJson (s : SchemaSnapshot) : ofJson? s.toJson = some s := by
  unfold ofJson? toJson
  rw [record?_object]
  · simp only [List.map_cons, List.map_nil, Option.bind_eq_bind, Option.bind_some, list?,
      mapM_map TableSnapshot.ofJson?_toJson, texts?_list, Option.pure_def]
  · rfl
  · decide

theorem Cell.ofJson?_toJson (c : Cell) : ofJson? c.toJson = some c := by
  cases c with
  | integer n => simp only [ofJson?, toJson, int64?_toInt, Option.map_some]
  | null | boolean | text => rfl

theorem Row.ofJson?_toJson (r : Row) : ofJson? r.toJson = some r := by
  unfold ofJson? toJson
  rw [record?_object]
  · simp only [List.map_cons, List.map_nil, Option.bind_eq_bind, Option.bind_some, list?,
      mapM_map Cell.ofJson?_toJson, Option.pure_def]
  · rfl
  · decide

theorem View.ofTagged?_toJson (v : View) : ofTagged? v.toJson = some v := by
  cases v with
  | database name => rfl
  | declared name select dependencies =>
      simp [ofTagged?, toJson, sole?, ofFields?, record?, text?, texts?_list]

namespace Json

theorem plain_texts (texts : List String) : Plain (.list (texts.map .text)) := by
  refine .list fun j hj => ?_
  obtain ⟨s, -, rfl⟩ := List.mem_map.mp hj
  exact .text s

theorem plain_map {f : α → Json} (h : ∀ a, Plain (f a)) (as : List α) :
    Plain (.list (as.map f)) := by
  refine .list fun j hj => ?_
  obtain ⟨a, -, rfl⟩ := List.mem_map.mp hj
  exact h a

theorem fits_int32 (n : Int32) : Fits n.toInt := by
  have hlo := n.le_toInt
  have hhi := n.toInt_lt
  constructor <;> omega

theorem fits_int64 (n : Int64) : Fits n.toInt := by
  have hlo := n.le_toInt
  have hhi := n.toInt_lt
  constructor <;> omega

end Json

theorem Column.plain_toJson (c : Column) : Plain c.toJson := by
  refine .object ?_
  simp only [List.forall_mem_cons]
  exact ⟨.text _, .text _, .integer (fits_int32 _), .integer (fits_int32 _), .bool _, .bool _,
    .bool _, .integer (fits_int32 _), .text _, nofun⟩

theorem Index.plain_toJson (i : Index) : Plain i.toJson := by
  refine .object ?_
  simp only [List.forall_mem_cons]
  exact ⟨.text _, .bool _, plain_texts _, nofun⟩

theorem TableSnapshot.plain_toJson (t : TableSnapshot) : Plain t.toJson := by
  refine .object ?_
  simp only [List.forall_mem_cons]
  exact ⟨.text _, plain_map Column.plain_toJson _, plain_map Index.plain_toJson _, plain_texts _,
    nofun⟩

theorem SchemaSnapshot.plain_toJson (s : SchemaSnapshot) : Plain s.toJson := by
  refine .object ?_
  simp only [List.forall_mem_cons]
  exact ⟨plain_map TableSnapshot.plain_toJson _, plain_texts _, nofun⟩

theorem Cell.plain_toJson (c : Cell) : Plain c.toJson := by
  cases c with
  | null => exact .null
  | integer n => exact .integer (fits_int64 n)
  | boolean b => exact .bool b
  | text s => exact .text s

theorem Row.plain_toJson (r : Row) : Plain r.toJson := by
  refine .object ?_
  simp only [List.forall_mem_cons]
  exact ⟨plain_map Cell.plain_toJson _, nofun⟩

namespace View

theorem plain_toJson (v : View) : Plain v.toJson := by
  cases v with
  | database name =>
      refine .object ?_
      simp only [List.forall_mem_cons]
      exact ⟨.text _, .text _, nofun⟩
  | declared name select dependencies =>
      refine .object ?_
      simp only [List.forall_mem_cons]
      exact ⟨.text _, .text _, .text _, plain_texts _, nofun⟩

theorem readable_texts (texts : List String) : itemsReadable (texts.map .text) = true := by
  induction texts with
  | nil => rfl
  | cons s texts ih => simp [itemsReadable, isReadable, ih]

theorem depth_texts (texts : List String) : itemsDepth (texts.map .text) = 0 := by
  induction texts with
  | nil => rfl
  | cons s texts ih => simp [itemsDepth, depth, ih]

theorem ofJson?_toJson (v : View) : ofJson? v.toJson = some v := by
  have hreadable : v.toJson.isReadable = true := by
    cases v <;> simp [toJson, isReadable, membersReadable, readable_texts]
  have hdepth : v.toJson.depth ≤ depthLimit := by
    cases v <;> simp [toJson, depth, membersDepth, depth_texts, depthLimit]
  rw [ofJson?, hreadable, if_pos (by simpa using hdepth), ofTagged?_toJson]

end View

def Json.ReadsBack (toJson : α → Json) (ofJson? : Json → Option α) (a : α) : Prop :=
  (parse? (toJson a).compact).bind ofJson? = some a ∧
    (parse? (toJson a).pretty).bind ofJson? = some a

theorem Json.readsBack {toJson : α → Json} {ofJson? : Json → Option α} {a : α}
    (hplain : Plain (toJson a)) (h : ofJson? (toJson a) = some a) : ReadsBack toJson ofJson? a := by
  refine ⟨?_, ?_⟩
  · rw [compact, parse?_write spaced_compact 0 hplain, Option.bind_some, h]
  · rw [pretty, parse?_write spaced_indented 0 hplain, Option.bind_some, h]

theorem json_round_trip :
    (∀ s : SchemaSnapshot, (parse? s.jsonText).bind SchemaSnapshot.ofJson? = some s) ∧
      (∀ s : SchemaSnapshot, ReadsBack SchemaSnapshot.toJson SchemaSnapshot.ofJson? s) ∧
      (∀ v : View, ReadsBack View.toJson View.ofJson? v) ∧
      ∀ r : Row, ReadsBack Row.toJson Row.ofJson? r := by
  have hschema := fun s : SchemaSnapshot => readsBack s.plain_toJson s.ofJson?_toJson
  exact ⟨fun s => (hschema s).2, hschema, fun v => readsBack v.plain_toJson v.ofJson?_toJson,
    fun r => readsBack r.plain_toJson r.ofJson?_toJson⟩

end DatabaseSchema
