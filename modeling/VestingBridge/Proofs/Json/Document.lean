import VestingBridge.Proofs.Json.Token
import VestingBridge.Proofs.Text
/-!
# Proofs.Json.Document — values that are written and read back

A value is written on one line and read in two passes: the text is cut into words, and the words are put together.  So
each value has a row of words that its text is cut into (`Reads`) and that it is put together from (`Builds`), and both
are followed along the value.  A value comes back from its text exactly if every numeral in it is kept as the reader
keeps numerals (`parse?_render_iff`): nothing else is ever read.
-/
namespace VestingBridge.Json

variable {c : Char} {cs : List Char} {tokens ws vs : List Token} {t : Token} {j : Json}

/-! ## Words and their value -/

/-- **A value is put together from words**, whatever it stands in. -/
def Builds (ws : List Token) (j : Json) : Prop :=
  ∀ stage, stage = .value ∨ stage = .firstItem → ∀ stack rest,
    build? stack stage (ws ++ rest) = build? stack (.after j) rest

theorem builds_scalar (j : Json) : Builds [.scalar j] j := by
  rintro _ (rfl | rfl) stack rest <;> rfl

theorem builds_text (s : String) : Builds [.text s] (.string s) := by
  rintro _ (rfl | rfl) stack rest <;> rfl

/-- **Items are put together**, after those that an array holds already. -/
def BuildsItems (ws : List Token) (items : List Json) : Prop :=
  ∀ stage, stage = .value ∨ stage = .firstItem → ∀ done stack rest,
    build? (.array done :: stack) stage (ws ++ .endArray :: rest) =
      build? stack (.after (.array (done.reverse ++ items))) rest

theorem Builds.item (h : Builds ws j) : BuildsItems ws [j] := by
  intro stage hstage done stack rest
  rw [h stage hstage]
  change build? stack (.after (.array (j :: done).reverse)) rest = _
  rw [List.reverse_cons]

theorem BuildsItems.cons {items : List Json} (h : Builds ws j) (hitems : BuildsItems vs items) :
    BuildsItems (ws ++ .comma :: vs) (j :: items) := by
  intro stage hstage done stack rest
  rw [List.append_assoc, h stage hstage]
  change build? (.array (j :: done) :: stack) .value (vs ++ .endArray :: rest) = _
  rw [hitems .value (.inl rfl), List.reverse_cons, List.append_assoc]
  rfl

theorem BuildsItems.array {items : List Json} (h : BuildsItems ws items) :
    Builds (.beginArray :: (ws ++ [.endArray])) (.array items) := by
  have hinside (stack : List Frame) (rest : List Token) :
      build? (.array [] :: stack) .firstItem (ws ++ [.endArray] ++ rest) =
        build? stack (.after (.array items)) rest := by
    rw [List.append_assoc]
    exact h .firstItem (.inr rfl) [] stack rest
  rintro _ (rfl | rfl) stack rest
  · exact hinside stack rest
  · exact hinside stack rest

/-- **Members are put together**, after those that an object holds already. -/
def BuildsMembers (ws : List Token) (members : List (String × Json)) : Prop :=
  ∀ done mayEnd stack rest, build? stack (.key done mayEnd) (ws ++ .endObject :: rest) =
    build? stack (.after (.object (done.reverse ++ members))) rest

theorem Builds.member (h : Builds ws j) (k : String) : BuildsMembers (.text k :: .colon :: ws) [(k, j)] := by
  intro done mayEnd stack rest
  change build? (.object done k :: stack) .value (ws ++ .endObject :: rest) = _
  rw [h .value (.inl rfl)]
  change build? stack (.after (.object ((k, j) :: done).reverse)) rest = _
  rw [List.reverse_cons]

theorem BuildsMembers.cons {members : List (String × Json)} (h : Builds ws j) (k : String)
    (hmembers : BuildsMembers vs members) :
    BuildsMembers (.text k :: .colon :: (ws ++ .comma :: vs)) ((k, j) :: members) := by
  intro done mayEnd stack rest
  change build? (.object done k :: stack) .value (ws ++ .comma :: vs ++ .endObject :: rest) = _
  rw [List.append_assoc, h .value (.inl rfl)]
  change build? stack (.key ((k, j) :: done) false) (vs ++ .endObject :: rest) = _
  rw [hmembers, List.reverse_cons, List.append_assoc]
  rfl

theorem BuildsMembers.object {members : List (String × Json)} (h : BuildsMembers ws members) :
    Builds (.beginObject :: (ws ++ [.endObject])) (.object members) := by
  have hinside (stack : List Frame) (rest : List Token) :
      build? stack (.key [] true) (ws ++ [.endObject] ++ rest) = build? stack (.after (.object members)) rest := by
    rw [List.append_assoc]
    exact h [] true stack rest
  rintro _ (rfl | rfl) stack rest
  · exact hinside stack rest
  · exact hinside stack rest

/-! ## Values -/

/-- **A value that a text can stand for**: each numeral in it is one that is kept as written. -/
inductive IsWritten : Json → Prop
  | null : IsWritten .null
  | bool (value : Bool) : IsWritten (.bool value)
  | count (value : Nat) : IsWritten (.count value)
  | numeral (written : String) (kept : IsKept written) : IsWritten (.numeral written)
  | string (value : String) : IsWritten (.string value)
  | array (items : List Json) (each : ∀ j ∈ items, IsWritten j) : IsWritten (.array items)
  | object (members : List (String × Json)) (each : ∀ m ∈ members, IsWritten m.2) : IsWritten (.object members)

/-- **A text says a value**: it is cut into words that the value is put together from. -/
def Says (cs : List Char) (j : Json) : Prop := ∃ ws, Reads cs ws ∧ Builds ws j

theorem says_items {items : List Json} (hsome : items ≠ []) (h : ∀ j ∈ items, Says j.render.toList j) :
    ∃ ws, Reads (renderItems items).toList ws ∧ BuildsItems ws items := by
  induction items with
  | nil => exact absurd rfl hsome
  | cons j items ih =>
    obtain ⟨ws, hreads, hbuilds⟩ := h j (List.mem_cons_self ..)
    cases items with
    | nil => exact ⟨ws, hreads, hbuilds.item⟩
    | cons k items =>
      obtain ⟨vs, hreads', hbuilds'⟩ := ih nofun fun i hi => h i (List.mem_cons_of_mem j hi)
      refine ⟨ws ++ .comma :: vs, ?_, hbuilds'.cons hbuilds⟩
      rw [renderItems, String.toList_append, String.toList_append, List.append_assoc]
      · exact hreads.mark rfl hreads'
      · exact nofun

theorem says_members {members : List (String × Json)} (hsome : members ≠ [])
    (h : ∀ m ∈ members, Says m.2.render.toList m.2) :
    ∃ ws, Reads (renderMembers members).toList ws ∧ BuildsMembers ws members := by
  induction members with
  | nil => exact absurd rfl hsome
  | cons m members ih =>
    obtain ⟨k, j⟩ := m
    obtain ⟨ws, hreads, hbuilds⟩ := h (k, j) (List.mem_cons_self ..)
    cases members with
    | nil =>
      refine ⟨_, ?_, hbuilds.member k⟩
      rw [renderMembers, String.toList_append, String.toList_append, List.append_assoc]
      exact (reads_renderString k).mark rfl hreads
    | cons m members =>
      obtain ⟨vs, hreads', hbuilds'⟩ := ih nofun fun i hi => h i (List.mem_cons_of_mem (k, j) hi)
      refine ⟨_, ?_, hbuilds'.cons hbuilds k⟩
      rw [renderMembers]
      · simp only [String.toList_append, List.append_assoc]
        exact (reads_renderString k).mark rfl (hreads.mark rfl hreads')
      · exact nofun

/-- **What is written says the value.** -/
theorem says_render (h : j.IsWritten) : Says j.render.toList j := by
  -- an empty container has no parts to be joined by commas, so it is a case of its own
  induction h with
  | null => exact ⟨_, reads_bare nofun (List.all_eq_true.1 rfl) rfl, builds_scalar _⟩
  | bool value => cases value <;> exact ⟨_, reads_bare nofun (List.all_eq_true.1 rfl) rfl, builds_scalar _⟩
  | count value => exact ⟨_, reads_count value, builds_scalar _⟩
  | numeral written kept => exact ⟨_, reads_numeral kept, builds_scalar _⟩
  | string value => exact ⟨_, reads_renderString value, builds_text value⟩
  | array items each ih =>
    rw [render, String.toList_append, String.toList_append]
    cases items with
    | nil =>
      exact ⟨_, Reads.nil.enclosed (b := '[') (e := ']') rfl rfl, by rintro _ (rfl | rfl) stack rest <;> rfl⟩
    | cons j items =>
      obtain ⟨ws, hreads, hbuilds⟩ := says_items (List.cons_ne_nil j items) ih
      exact ⟨_, hreads.enclosed (b := '[') (e := ']') rfl rfl, hbuilds.array⟩
  | object members each ih =>
    rw [render, String.toList_append, String.toList_append]
    cases members with
    | nil =>
      exact ⟨_, Reads.nil.enclosed (b := '\x7b') (e := '\x7d') rfl rfl, by rintro _ (rfl | rfl) stack rest <;> rfl⟩
    | cons m members =>
      obtain ⟨ws, hreads, hbuilds⟩ := says_members (List.cons_ne_nil m members) ih
      exact ⟨_, hreads.enclosed (b := '\x7b') (e := '\x7d') rfl rfl, hbuilds.object⟩

/-- **A value that is written is read back.** -/
theorem parse?_render (h : j.IsWritten) : parse? j.render = some j := by
  obtain ⟨ws, hreads, hbuilds⟩ := says_render h
  have hwords : tokens? j.render.toList = some ws := by
    have hrun := hreads [] [] nofun
    rw [List.append_nil, List.append_nil] at hrun
    rw [tokens?, hrun, Lexer.run, List.reverse_reverse]
  have hbuild := hbuilds .value (.inl rfl) [] []
  rw [List.append_nil] at hbuild
  rw [parse?, hwords, Option.bind_eq_bind, Option.bind_some, hbuild]
  rfl

theorem ofOctets?_encode_render (h : j.IsWritten) : ofOctets? (Text.Utf8.encode j.render) = some j := by
  rw [ofOctets?, Text.Utf8.decode?_encode, Option.bind_eq_bind, Option.bind_some, parse?_render h]

theorem IsWritten.variant {name : String} {members : List (String × Json)} (h : ∀ m ∈ members, m.2.IsWritten) :
    (Json.variant name members).IsWritten :=
  .object _ fun m hm => by
    rw [List.mem_singleton.1 hm]
    exact .object members h

/-! ## What is read -/

theorem isWritten_of_bare? (h : bare? cs = some j) : j.IsWritten := by
  unfold bare? at h
  split at h
  · cases h
    exact .null
  split at h
  · cases h
    exact .bool true
  split at h
  · cases h
    exact .bool false
  split at h
  · rename_i hnumeral
    split at h
    · cases h
      exact .count _
    · rename_i hother
      cases h
      refine .numeral _ ⟨?_, ?_⟩
      · rwa [String.toList_ofList]
      · rw [String.toList_ofList]
        exact eq_false_of_ne_true hother
  · cases h

/-- Each value among the words is one that a text can stand for. -/
def AllWritten (ws : List Token) : Prop := ∀ j, .scalar j ∈ ws → j.IsWritten

theorem AllWritten.nil : AllWritten [] := fun _ hj => nomatch hj

theorem start_ne_scalar {next : Lexer} : Lexer.start c ≠ some (some (.scalar j), next) := by
  intro h
  unfold Lexer.start at h
  repeat' split at h
  all_goals cases h

theorem AllWritten.append_start {token : Option Token} {next : Lexer} (h : AllWritten ws)
    (hstart : Lexer.start c = some (token, next)) : AllWritten (token.toList ++ ws) := by
  intro j hj
  rcases List.mem_append.1 hj with hj | hj
  · cases Option.mem_toList.1 hj
    exact absurd hstart start_ne_scalar
  · exact h j hj

theorem AllWritten.cons (h : AllWritten ws) (ht : ∀ j, t = .scalar j → j.IsWritten) : AllWritten (t :: ws) := by
  intro j hj
  rcases List.mem_cons.1 hj with hj | hj
  · exact ht j hj.symm
  · exact h j hj

/-- One character keeps the words such. -/
theorem allWritten_of_step {state next : Lexer} {after : List Token} (hws : AllWritten ws)
    (h : state.step ws c = some (after, next)) : AllWritten after := by
  cases state with
  | between =>
    obtain ⟨⟨token, state⟩, hstart, h⟩ := Option.bind_eq_some_iff.1 h
    cases h
    exact hws.append_start hstart
  | text seen =>
    rw [Lexer.step] at h
    split at h
    · obtain ⟨value, -, h⟩ := Option.bind_eq_some_iff.1 h
      cases h
      refine hws.cons ?_
      rintro _ ⟨⟩
    split at h
    · cases h
      exact hws
    · cases h
      exact hws
  | escape seen =>
    cases h
    exact hws
  | bare seen =>
    rw [Lexer.step] at h
    split at h
    · cases h
      exact hws
    · obtain ⟨j, hj, h⟩ := Option.bind_eq_some_iff.1 h
      obtain ⟨⟨token, state⟩, hstart, h⟩ := Option.bind_eq_some_iff.1 h
      cases h
      refine AllWritten.append_start (hws.cons ?_) hstart
      rintro _ ⟨⟩
      exact isWritten_of_bare? hj

theorem AllWritten.reverse (h : AllWritten ws) : AllWritten ws.reverse := fun j hj => h j (List.mem_reverse.1 hj)

/-- **The words of a text hold such values only.** -/
theorem allWritten_of_run {state : Lexer} (htokens : AllWritten tokens) (h : state.run tokens cs = some ws) :
    AllWritten ws := by
  induction cs generalizing tokens state with
  | nil =>
    cases state with
    | between =>
      cases h
      exact htokens.reverse
    | bare seen =>
      obtain ⟨j, hj, rfl⟩ := Option.map_eq_some_iff.1 h
      refine AllWritten.reverse (htokens.cons ?_)
      rintro _ ⟨⟩
      exact isWritten_of_bare? hj
    | text | escape => cases h
  | cons c cs ih =>
    rw [run_cons] at h
    split at h
    · rename_i hstep
      exact ih (allWritten_of_step htokens hstep) h
    · cases h

/-- What a container holds so far is written. -/
def Frame.IsWritten : Frame → Prop
  | .array done => ∀ j ∈ done, j.IsWritten
  | .object done _ => ∀ m ∈ done, m.2.IsWritten

/-- What a stage holds is written. -/
def Stage.IsWritten : Stage → Prop
  | .value | .firstItem => True
  | .key done _ | .colon done _ => ∀ m ∈ done, m.2.IsWritten
  | .after j => j.IsWritten

theorem IsWritten.array_reverse {done : List Json} (h : ∀ j ∈ done, j.IsWritten) :
    (Json.array done.reverse).IsWritten :=
  .array _ fun j hj => h j (List.mem_reverse.1 hj)

theorem IsWritten.object_reverse {done : List (String × Json)} (h : ∀ m ∈ done, m.2.IsWritten) :
    (Json.object done.reverse).IsWritten :=
  .object _ fun m hm => h m (List.mem_reverse.1 hm)

/-- A word that begins a value keeps what is part way through such. -/
theorem isWritten_of_step_value {stack stack' : List Frame} {stage' : Stage} (hstack : ∀ f ∈ stack, f.IsWritten)
    (ht : ∀ j, t = .scalar j → j.IsWritten) (h : step stack .value t = some (stack', stage')) :
    (∀ f ∈ stack', f.IsWritten) ∧ stage'.IsWritten := by
  cases t with
  | beginArray =>
    cases h
    exact ⟨List.forall_mem_cons.2 ⟨nofun, hstack⟩, trivial⟩
  | beginObject =>
    cases h
    exact ⟨hstack, nofun⟩
  | text s =>
    cases h
    exact ⟨hstack, .string s⟩
  | scalar j =>
    cases h
    exact ⟨hstack, ht j rfl⟩
  | endArray | endObject | colon | comma => cases h

/-- One word keeps what is part way through such. -/
theorem isWritten_of_step {stack stack' : List Frame} {stage stage' : Stage}
    (hstack : ∀ f ∈ stack, f.IsWritten) (hstage : stage.IsWritten) (ht : ∀ j, t = .scalar j → j.IsWritten)
    (h : step stack stage t = some (stack', stage')) : (∀ f ∈ stack', f.IsWritten) ∧ stage'.IsWritten := by
  -- the words that cannot come at a stage are refused, and the last case of each stage gathers them
  cases stage with
  | value => exact isWritten_of_step_value hstack ht h
  | firstItem =>
    cases t with
    | beginArray | beginObject | text | scalar => exact isWritten_of_step_value hstack ht h
    | endArray =>
      match stack, hstack, h with
      | .array done :: rest, hstack, rfl =>
        obtain ⟨hdone, hrest⟩ := List.forall_mem_cons.1 hstack
        exact ⟨hrest, .array_reverse hdone⟩
    | endObject | colon | comma => cases h
  | key done mayEnd =>
    cases t with
    | text =>
      cases h
      exact ⟨hstack, hstage⟩
    | endObject =>
      cases mayEnd with
      | false => cases h
      | true =>
        cases h
        exact ⟨hstack, .object_reverse hstage⟩
    | beginArray | beginObject | scalar | endArray | colon | comma => cases h
  | colon done k =>
    cases t with
    | colon =>
      cases h
      exact ⟨List.forall_mem_cons.2 ⟨hstage, hstack⟩, trivial⟩
    | beginArray | beginObject | text | scalar | endArray | endObject | comma => cases h
  | after j =>
    cases t with
    | comma =>
      match stack, hstack, h with
      | .array done :: rest, hstack, rfl =>
        obtain ⟨hdone, hrest⟩ := List.forall_mem_cons.1 hstack
        exact ⟨List.forall_mem_cons.2 ⟨List.forall_mem_cons.2 ⟨hstage, hdone⟩, hrest⟩, trivial⟩
      | .object done k :: rest, hstack, rfl =>
        obtain ⟨hdone, hrest⟩ := List.forall_mem_cons.1 hstack
        exact ⟨hrest, List.forall_mem_cons (a := (k, j)).2 ⟨hstage, hdone⟩⟩
    | endArray =>
      match stack, hstack, h with
      | .array done :: rest, hstack, rfl =>
        obtain ⟨hdone, hrest⟩ := List.forall_mem_cons.1 hstack
        exact ⟨hrest, .array_reverse (List.forall_mem_cons.2 ⟨hstage, hdone⟩)⟩
    | endObject =>
      match stack, hstack, h with
      | .object done k :: rest, hstack, rfl =>
        obtain ⟨hdone, hrest⟩ := List.forall_mem_cons.1 hstack
        exact ⟨hrest, .object_reverse (List.forall_mem_cons (a := (k, j)).2 ⟨hstage, hdone⟩)⟩
    | beginArray | beginObject | text | scalar | colon => cases h

theorem isWritten_of_build? {stack : List Frame} {stage : Stage} (hstack : ∀ f ∈ stack, f.IsWritten)
    (hstage : stage.IsWritten) (hws : AllWritten ws) (h : build? stack stage ws = some j) : j.IsWritten := by
  induction ws generalizing stack stage with
  | nil =>
    unfold build? at h
    split at h
    · cases h
      exact hstage
    · cases h
  | cons t ws ih =>
    rw [build?] at h
    split at h
    · rename_i hstep
      obtain ⟨hstack', hstage'⟩ :=
        isWritten_of_step hstack hstage (fun j ht => hws j (ht ▸ List.mem_cons_self ..)) hstep
      exact ih hstack' hstage' (fun j hj => hws j (List.mem_cons_of_mem t hj)) h
    · cases h

/-- **What is read can be written.** -/
theorem isWritten_of_parse? {text : String} (h : parse? text = some j) : j.IsWritten := by
  obtain ⟨ws, hws, h⟩ := Option.bind_eq_some_iff.1 h
  have hstage : Stage.value.IsWritten := trivial
  exact isWritten_of_build? (List.forall_mem_nil _) hstage (allWritten_of_run .nil hws) h

/-- **Exactly the values that a text can stand for come back from their texts.** -/
theorem parse?_render_iff : parse? j.render = some j ↔ j.IsWritten := ⟨isWritten_of_parse?, parse?_render⟩

end VestingBridge.Json
