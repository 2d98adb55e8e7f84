-- SUMMARY: What the key of a request tells apart: the pieces between zero characters, and for plain requests all that selects a rendering.
import WikiMarkup.Proofs.Sorting
import WikiMarkup.Store.Renderings

/-!
# Request keys

The key of a request is made of its fields with a zero byte after each; a parameter is one field,
its name and its value with an equals sign between them. Nothing is escaped. The key therefore
tells the pieces between zero characters, but not to which field a piece belongs, nor where a name
ends. Requests are told apart as they should be if no field holds a zero character and no name an
equals sign.
-/

namespace WikiMarkup

/-! ## Bytes of texts -/

namespace Text

theorem bytes_append (s t : String) : bytes (s ++ t) = bytes s ++ bytes t := by
  simp only [bytes, String.toUTF8, String.toByteArray_append, ByteArray.toList_data_append]

theorem bytes_inj {s t : String} : bytes s = bytes t ↔ s = t := by
  constructor
  · intro h
    apply String.toByteArray_inj.mp
    apply ByteArray.ext
    exact Array.toList_inj.mp h
  · intro h
    rw [h]

theorem hexDigit_inj {m n : Nat} (hm : m < 16) (hn : n < 16) (h : hexDigit m = hexDigit n) :
    m = n := by
  have hall : ∀ m < 16, ∀ n < 16, hexDigit m = hexDigit n → m = n := by decide
  exact hall m hm n hn h

theorem hexChars_inj {bs bs' : List UInt8} (h : hexChars bs = hexChars bs') : bs = bs' := by
  induction bs generalizing bs' with
  | nil =>
    cases bs' with
    | nil => rfl
    | cons b' bs' => simp [hexChars] at h
  | cons b bs ih =>
    cases bs' with
    | nil => simp [hexChars] at h
    | cons b' bs' =>
      simp only [hexChars, List.flatMap_cons, List.cons_append, List.nil_append,
        List.cons.injEq] at h
      obtain ⟨hhigh, hlow, hrest⟩ := h
      have hb := b.toNat_lt
      have hb' := b'.toNat_lt
      have hdiv := hexDigit_inj (by omega) (by omega) hhigh
      have hmod := hexDigit_inj (by omega) (by omega) hlow
      have hbyte : b = b' := UInt8.toNat_inj.mp (by omega)
      rw [hbyte, ih hrest]

/-- A text of digit pairs names no absolute path. -/
theorem isAbsolute_hex (bs : List UInt8) : Path.isAbsolute (hex bs) = false := by
  have hdigit : ∀ n < 16, hexDigit n ≠ '/' := by decide
  cases bs with
  | nil => rfl
  | cons b bs =>
    have hb := b.toNat_lt
    simpa [Path.isAbsolute, hex, hexChars] using hdigit (b.toNat / 16) (by omega)

end Text

/-- Behind one directory, relative paths are told apart. -/
theorem Path.join_inj {left right right' : String} (h : isAbsolute right = false)
    (h' : isAbsolute right' = false) : join left right = join left right' ↔ right = right' := by
  simp only [join, h, h', Bool.false_eq_true, if_false]
  split <;> simp

namespace RenderRequest

/-! ## Fields and pieces -/

/-- The character whose byte ends a field. -/
def separator : Char := Char.ofNat 0

/-- The texts that the key is made of. -/
def fields (r : RenderRequest) : List String :=
  r.document :: r.effectiveAction :: r.locale ::
    r.selecting.map fun entry => entry.1 ++ "=" ++ entry.2

/-- What stands between the zero characters of a list of fields. -/
def piecesOf (fields : List String) : List (List Char) :=
  fields.flatMap fun field => field.toList.splitOn separator

/-- What stands between the zero characters of the key. -/
def pieces (r : RenderRequest) : List (List Char) := piecesOf r.fields

/-- The characters of a list of fields with a zero character after each. -/
def ended (fields : List String) : List Char :=
  fields.flatMap fun field => field.toList ++ [separator]

theorem keyPart_eq (text : String) :
    keyPart text = Text.bytes (text ++ String.singleton separator) := by
  rw [Text.bytes_append]
  rfl

theorem flatMap_keyPart (fields : List String) :
    fields.flatMap keyPart = Text.bytes (String.ofList (ended fields)) := by
  induction fields with
  | nil => rfl
  | cons field fields ih =>
    have hfield : field ++ String.singleton separator =
        String.ofList (field.toList ++ [separator]) := by
      rw [String.ofList_append, String.ofList_toList]
      rfl
    rw [List.flatMap_cons, ih, keyPart_eq, hfield, ← Text.bytes_append, ← String.ofList_append]
    rfl

theorem keyBytes_eq (r : RenderRequest) :
    r.keyBytes = Text.bytes (String.ofList (ended r.fields)) := by
  rw [← flatMap_keyPart]
  simp [keyBytes, fields, List.flatMap_map, List.append_assoc]

/-- The characters of the key fall into its pieces, and an empty one behind the last separator. -/
theorem splitOn_ended (fields : List String) :
    (ended fields).splitOn separator = piecesOf fields ++ [[]] := by
  induction fields with
  | nil => rfl
  | cons field fields ih =>
    have hended : ended (field :: fields) = field.toList ++ separator :: ended fields := by
      simp [ended]
    rw [hended, List.splitOn_append_cons_self, ih, ← List.append_assoc]
    rfl

/-- Two keys are made of the same bytes exactly if they fall into the same pieces. -/
theorem keyBytes_eq_iff_pieces {r s : RenderRequest} :
    r.keyBytes = s.keyBytes ↔ r.pieces = s.pieces := by
  rw [keyBytes_eq, keyBytes_eq, Text.bytes_inj]
  constructor
  · intro h
    have hended := String.ofList_injective h
    have hsplit := congrArg (List.splitOn separator) hended
    rw [splitOn_ended, splitOn_ended] at hsplit
    exact List.append_cancel_right hsplit
  · intro h
    have hsplit : (ended r.fields).splitOn separator = (ended s.fields).splitOn separator := by
      rw [splitOn_ended, splitOn_ended]
      exact congrArg (· ++ [[]]) h
    have hjoined := congrArg (List.intercalate [separator]) hsplit
    rw [List.intercalate_splitOn, List.intercalate_splitOn] at hjoined
    exact congrArg String.ofList hjoined

/-! ## Requests that select the same rendering -/

/-- The requests name the same document, action and locale, and apart from the wish for a fresh
rendering have the same parameters. -/
structure SelectsSame (r s : RenderRequest) : Prop where
  document : r.document = s.document
  action : r.effectiveAction = s.effectiveAction
  locale : r.locale = s.locale
  parameters : (r.parameters.erase refreshParameter).SameMapping
    (s.parameters.erase refreshParameter)

/-- No field holds the character that ends one, and no name the one behind names. -/
structure Plain (r : RenderRequest) : Prop where
  fields : ∀ field ∈ r.fields, separator ∉ field.toList
  names : ∀ entry ∈ r.selecting, '=' ∉ entry.1.toList

theorem SelectsSame.fields_eq {r s : RenderRequest} (h : r.SelectsSame s) :
    r.fields = s.fields := by
  have hselecting : r.selecting = s.selecting := Parameters.sortByName_eq_iff.mpr h.parameters
  rw [fields, fields, h.document, h.action, h.locale, hselecting]

theorem SelectsSame.keyBytes_eq {r s : RenderRequest} (h : r.SelectsSame s) :
    r.keyBytes = s.keyBytes := by
  rw [RenderRequest.keyBytes_eq, RenderRequest.keyBytes_eq, h.fields_eq]

/-- Fields without a separator are their own pieces. -/
theorem piecesOf_eq {fields : List String} (h : ∀ field ∈ fields, separator ∉ field.toList) :
    piecesOf fields = fields.map String.toList := by
  induction fields with
  | nil => rfl
  | cons field fields ih =>
    have hfield := List.splitOn_eq_singleton (h field List.mem_cons_self)
    have hrest := ih fun other hother => h other (List.mem_cons_of_mem _ hother)
    rw [piecesOf, List.flatMap_cons, hfield, ← piecesOf, hrest]
    rfl

theorem Plain.fields_eq {r s : RenderRequest} (hr : r.Plain) (hs : s.Plain)
    (h : r.pieces = s.pieces) : r.fields = s.fields := by
  rw [pieces, pieces, piecesOf_eq hr.fields, piecesOf_eq hs.fields] at h
  exact (List.map_injective_iff.mpr fun _ _ => String.toList_injective) h

/-- A parameter is known by its field if its name holds no equals sign. -/
theorem parameter_inj {entry entry' : String × String} (h : '=' ∉ entry.1.toList)
    (h' : '=' ∉ entry'.1.toList)
    (hfield : entry.1 ++ "=" ++ entry.2 = entry'.1 ++ "=" ++ entry'.2) : entry = entry' := by
  have hsplit : ∀ entry : String × String, '=' ∉ entry.1.toList →
      (entry.1 ++ "=" ++ entry.2).toList.splitOn '=' =
        entry.1.toList :: entry.2.toList.splitOn '=' := by
    intro entry hentry
    rw [String.append_assoc, String.toList_append, String.toList_append]
    exact List.splitOn_append_cons_self_of_not_mem hentry _
  have hparts := congrArg (fun field => field.toList.splitOn '=') hfield
  simp only [hsplit entry h, hsplit entry' h', List.cons.injEq] at hparts
  have hname : entry.1 = entry'.1 := String.toList_injective hparts.1
  rw [hname] at hfield
  exact Prod.ext hname ((String.append_right_inj _).mp hfield)

theorem parameters_inj {entries entries' : List (String × String)}
    (h : ∀ entry ∈ entries, '=' ∉ entry.1.toList) (h' : ∀ entry ∈ entries', '=' ∉ entry.1.toList)
    (hfields : (entries.map fun entry => entry.1 ++ "=" ++ entry.2) =
      entries'.map fun entry => entry.1 ++ "=" ++ entry.2) : entries = entries' := by
  induction entries generalizing entries' with
  | nil => exact (List.map_eq_nil_iff.mp hfields.symm).symm
  | cons entry entries ih =>
    cases entries' with
    | nil => cases hfields
    | cons entry' entries' =>
      obtain ⟨hhead, htail⟩ := List.cons.inj hfields
      rw [parameter_inj (h _ List.mem_cons_self) (h' _ List.mem_cons_self) hhead,
        ih (fun e he => h e (List.mem_cons_of_mem _ he))
          (fun e he => h' e (List.mem_cons_of_mem _ he)) htail]

/-- The keys of plain requests tell apart everything that selects a rendering. -/
theorem Plain.keyBytes_eq_iff_selectsSame {r s : RenderRequest} (hr : r.Plain) (hs : s.Plain) :
    r.keyBytes = s.keyBytes ↔ r.SelectsSame s := by
  constructor
  · intro h
    have hfields := hr.fields_eq hs (keyBytes_eq_iff_pieces.mp h)
    simp only [RenderRequest.fields, List.cons.injEq] at hfields
    obtain ⟨hdocument, haction, hlocale, hparameters⟩ := hfields
    have hselecting := parameters_inj hr.names hs.names hparameters
    exact ⟨hdocument, haction, hlocale, Parameters.sortByName_eq_iff.mp hselecting⟩
  · exact SelectsSame.keyBytes_eq

/-- Without a collision of their digests, requests have a file in common exactly if their keys are
made of the same bytes. -/
theorem entryPath_eq_iff {r s : RenderRequest}
    (h : Sha256.digest r.keyBytes = Sha256.digest s.keyBytes → r.keyBytes = s.keyBytes)
    (root : String) :
    Store.entryPath root RenderingCache.bucket r.key =
      Store.entryPath root RenderingCache.bucket s.key ↔ r.keyBytes = s.keyBytes := by
  simp only [Store.entryPath, key, Sha256.hexDigest]
  rw [Path.join_inj (Text.isAbsolute_hex _) (Text.isAbsolute_hex _)]
  constructor
  · intro hkey
    exact h (Text.hexChars_inj (String.ofList_injective hkey))
  · intro hbytes
    rw [hbytes]

/-- Keys are made of the same bytes exactly if they fall into the same pieces. That is so for
requests that select the same rendering, and for plain requests only then. Without a collision of
digests, the file of a rendering is that of its key. -/
theorem keyBytes_eq_iff (r s : RenderRequest) :
    (r.keyBytes = s.keyBytes ↔ r.pieces = s.pieces) ∧
    (r.SelectsSame s → r.keyBytes = s.keyBytes) ∧
    (r.Plain → s.Plain → (r.keyBytes = s.keyBytes ↔ r.SelectsSame s)) ∧
    ((Sha256.digest r.keyBytes = Sha256.digest s.keyBytes → r.keyBytes = s.keyBytes) →
      ∀ root, Store.entryPath root RenderingCache.bucket r.key =
        Store.entryPath root RenderingCache.bucket s.key ↔ r.keyBytes = s.keyBytes) :=
  ⟨keyBytes_eq_iff_pieces, SelectsSame.keyBytes_eq, Plain.keyBytes_eq_iff_selectsSame,
    entryPath_eq_iff⟩

/-- The default action may be named or not, parameters may come in any order, and a wish for a
fresh rendering does not count. -/
theorem keyBytes_eq_default_action :
    let r : RenderRequest :=
      ⟨"A.B", none, "fr", .ofList [("y", "a=b"), ("refresh", "1"), ("x", "")]⟩
    let s : RenderRequest := ⟨"A.B", some "view", "fr", .ofList [("x", ""), ("y", "a=b")]⟩
    let t : RenderRequest := ⟨"A.B", some "view", "fr", .ofList [("x", "y=a=b")]⟩
    r.Plain ∧ s.Plain ∧ t.Plain ∧ r.SelectsSame s ∧ r.keyBytes = s.keyBytes ∧
      r.keyBytes ≠ t.keyBytes ∧
      Store.entryPath "cache" RenderingCache.bucket r.key =
        Store.entryPath "cache" RenderingCache.bucket s.key := by
  intro r s t
  have hr : r.Plain := ⟨by decide, by decide⟩
  have hs : s.Plain := ⟨by decide, by decide⟩
  have ht : t.Plain := ⟨by decide, by decide⟩
  have hsame : r.SelectsSame s := ⟨rfl, rfl, rfl, by decide⟩
  obtain ⟨-, hbytes, -, hpath⟩ := keyBytes_eq_iff r s
  obtain ⟨-, -, hplain, -⟩ := keyBytes_eq_iff r t
  have hother : ¬ r.SelectsSame t := by
    intro h
    exact absurd h.parameters (by decide)
  refine ⟨hr, hs, ht, hsame, hbytes hsame, ?_, ?_⟩
  · exact fun h => hother ((hplain hr ht).mp h)
  · exact (hpath (fun _ => hbytes hsame) "cache").mpr (hbytes hsame)

/-- An equals sign in a name can also stand in a value: the keys do not tell where the name ends. -/
theorem keyBytes_not_separating :
    ¬ ∀ r s : RenderRequest, r.keyBytes = s.keyBytes ↔ r.SelectsSame s := by
  intro h
  let r : RenderRequest := ⟨"A.B", none, "", .ofList [("a=b", "c")]⟩
  let s : RenderRequest := ⟨"A.B", none, "", .ofList [("a", "b=c")]⟩
  have hsame : r.SelectsSame s := (h r s).mp (by decide)
  exact absurd (hsame.parameters "a") (by decide)

end RenderRequest

end WikiMarkup
