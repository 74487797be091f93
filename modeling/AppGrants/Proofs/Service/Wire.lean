import AppGrants.Proofs.Json.Returning
import AppGrants.Proofs.Json.Success
import AppGrants.Service.Wire

/-! Lines on the wire are read as they were written. -/
namespace AppGrants.Service
open Json
variable {α : Type}

namespace Response

/-- The value that is read where a value was written: null is none. -/
def present : Doc → Option Doc
  | .null => none
  | doc => some doc.sorted

def received (response : Response) : Response := { response with result := response.result.bind present }

theorem fits (response : Response) (small : response.id < UInt64.size) (plain : ∀ doc ∈ response.result, doc.Plain 126) :
    Fits depthLimit (Codec.shape Response) response.toDoc := by
  have written : response.toDoc = .object (("id",.nat response.id) :: ("ok",.bool response.ok) ::
      (unlessNone "result" response.result ++ (unlessNone "error" response.error ++ []))) := by
    rw [List.append_nil]
    rfl
  rw [written]
  apply Fits.record (by decide)
  refine .required (.uint64 small) (.required (.boolean _) ?_)
  refine .unlessNone (by decide) (fun doc held => .anything (plain doc held)) ?_
  exact .unlessNone (by decide) (fun text _ => .text text) .nothing

theorem ofDoc_toDoc (response : Response) : ofDoc response.toDoc = response.received := by
  obtain ⟨id,ok,_ | doc,_ | text⟩ := response
  · rfl
  · rfl
  · cases doc <;> rfl
  · cases doc <;> rfl

theorem decode_encode (response : Response) (small : response.id < UInt64.size)
    (plain : ∀ doc ∈ response.result, doc.Plain 126) : decode (encode response) = .ok response.received := by
  have reads := (response.fits small plain).reads [] (by simp [Closes])
  have document : readDocument (Codec.shape Response) response.toDoc.compact = _ := readDocument_compact reads
  change (readDocument (Codec.shape Response) response.toDoc.compact).map ofDoc = _
  rw [document]
  exact congrArg Except.ok response.ofDoc_toDoc

section
variable {id : Nat} [Codec α] {value : α}

theorem getD_present (doc : Doc) : (present doc).getD .null = doc.sorted := by cases doc <;> rfl

theorem result_received (id : Nat) (value : α) :
    (success id value).received.result.getD .null = (success id value).result.getD .null := by
  change (present (Codec.toDoc value).sorted).getD .null = (Codec.toDoc value).sorted
  rw [getD_present,Doc.sorted_sorted]

theorem intoResult_success (id : Nat) (resumes : Resumes value) : (success id value).intoResult = .ok value := by
  have result : (success id value).result.getD .null = (Codec.toDoc value).sorted := rfl
  have given : (success id value).ok = true := rfl
  rw [intoResult,given,result,resumes.fromDoc_eq]
  rfl

theorem received_intoResult {β : Type} [Codec β] (id : Nat) (value : α) :
    (success id value).received.intoResult = ((success id value).intoResult : Except TransportError β) := by
  rw [intoResult,result_received]
  rfl

theorem intoResult_received (id : Nat) (resumes : Resumes value) : (success id value).received.intoResult = .ok value := by
  rw [received_intoResult,intoResult_success id resumes]

theorem plain_success (carried : Carried 126 value) : ∀ doc ∈ (success id value).result, doc.Plain 126 := by
  intro doc result
  obtain rfl : (Codec.toDoc value).sorted = doc := Option.some.inj result
  exact Doc.plain_sorted carried.plain

theorem decode_success (small : id < UInt64.size) (carried : Carried 126 value) :
    decode (encode (success id value)) = .ok (success id value).received :=
  decode_encode _ small (plain_success carried)

theorem decode_failure (small : id < UInt64.size) (message : String) :
    decode (encode (failure id message)) = .ok (failure id message) :=
  decode_encode (failure id message) small (by simp [failure])

end

theorem fillsLine (response : Response) (small : response.id < UInt64.size)
    (plain : ∀ doc ∈ response.result, doc.Plain 126) : Text.FillsLine (encode response) :=
  fillsLine_compact (response.fits small plain).plain

end Response

namespace Request

theorem fillsLine (request : Request) (small : request.id < UInt64.size) : Text.FillsLine request.encode := by
  have number := Doc.plain_nat 126 small
  have method := Doc.plain_text 126 request.method.name
  refine @fillsLine_compact 127 _ ?_
  change ∀ field ∈ _, _
  simp only [List.forall_mem_append,List.forall_mem_cons]
  refine ⟨⟨number,method,by simp⟩,?_⟩
  cases request.method with
  | listUserIds strategy =>
    have name : (Codec.toDoc strategy).Plain 126 := Doc.plain_text 126 strategy.name
    simpa [Method.fields] using name
  | listPackages flags =>
    have bits : (Codec.toDoc flags).Plain 126 := Doc.plain_uint32 126 flags
    simpa [Method.fields] using bits
  | _ => simp [Method.fields]

theorem loads (request : Request) (small : request.id < UInt64.size) :
    Loads draftMember {} ([("id",.nat request.id),("method",.text request.method.name)] ++ request.method.fields)
      ⟨some request.id,("method",.text request.method.name) :: request.method.fields⟩ := by
  have other {draft : Draft} {name : String} {doc : Doc} {fields : List (String × Doc)} {last : Draft} (beside : name ≠ "id")
      (plain : doc.Plain 126) (others : Loads draftMember { draft with fields := draft.fields ++ [(name,doc)] } fields last) :
      Loads draftMember draft ((name,doc) :: fields) last := by
    refine .field ?_ ((yields_read plain).map fun value => { draft with fields := draft.fields ++ [(name,value)] }) others
    rw [draftMember,if_neg beside]
    rfl
  have number : Yields (read 126 (.whole .unsigned64)) (.nat request.id) (.nat request.id) := (Fits.uint64 small).value
  have method := Doc.plain_text 126 request.method.name
  refine .field rfl (number.map fun value => { ({} : Draft) with id := some value.asInt.toNat }) ?_
  refine other (by decide) method ?_
  obtain ⟨id,_ | strategy | flags | _⟩ := request
  · exact .nothing
  · exact other (by decide) (Doc.plain_text 126 strategy.name) .nothing
  · exact other (by decide) (Doc.plain_uint32 126 flags) .nothing
  · exact .nothing

theorem argument_eq {name : String} {shape : Shape} {doc value : Doc} (conforms : conform doc shape = .ok value) :
    argument name shape [(name,doc)] = .ok value := by
  have finds : [Field.required name shape].find? (·.1.name == name) = some (Field.required name shape) := by
    simp [Field.required]
  have taken : conformNullable doc (Field.required name shape).1 shape = .ok value := by
    rw [conformNullable,Field.required,Bool.false_and,if_neg Bool.false_ne_true,conforms]
  have accepts : Accepts [Field.required name shape] [] [(name,doc)] [(name,value)] := .field finds rfl taken .nothing
  have held : conformEntries [(name,doc)] [] [Field.required name shape] = _ := accepts.conformEntries_eq
  have collected : collectFields [(name,value)] [Field.required name shape] = .ok [(name,value)] := by
    simp [collectFields,Field.required,Except.map]
  rw [argument]
  simp only [held,bind,Except.bind,collected]
  simp [Doc.field?]

theorem methodOf_fields (method : Method) : methodOf method.name method.fields = .ok method := by
  cases method with
  | hello => rfl
  | shutdown => rfl
  | listUserIds strategy =>
    have conforms : conform (Codec.toDoc strategy) (Codec.shape UserStrategy) = .ok (Codec.toDoc strategy) := by
      change conform _ (.choice _) = _
      rw [conform_choice]
      cases strategy <;> rfl
    change (argument "strategy" _ _).map _ = _
    rw [Method.fields,argument_eq conforms]
    cases strategy <;> rfl
  | listPackages flags =>
    have argument : argument "flags" (Codec.shape UInt32) [("flags",Codec.toDoc flags)] = _ := argument_eq (conform_uint32 flags)
    change (Request.argument "flags" _ _).map _ = _
    rw [Method.fields,argument]
    exact congrArg (fun flags => Except.ok (Method.listPackages flags)) (ofDoc_uint32 flags)

theorem ofDraft_fields (request : Request) :
    ofDraft ⟨some request.id,("method",.text request.method.name) :: request.method.fields⟩ = .ok request := by
  have split : splitMethod none (("method",.text request.method.name) :: request.method.fields) =
      .ok (some request.method.name,request.method.fields) := by
    cases request.method <;> rfl
  rw [ofDraft]
  simp only [split,bind,Except.bind,methodOf_fields]
  rfl

theorem decode_encode (request : Request) (small : request.id < UInt64.size) :
    decode request.encode = .ok request := by
  let fields := [("id",Doc.nat request.id),("method",.text request.method.name)] ++ request.method.fields
  have loads : Loads draftMember {} fields _ := request.loads small
  have begins : skipGaps ('\x7b' :: printFields fields) = '\x7b' :: printFields fields := skipGaps_cons (by decide)
  have enough : fields.length < (printFields fields).length + 1 := Nat.lt_succ_of_le (length_le_printFields fields)
  have members : readMembers draftMember _ true {} (printFields fields ++ []) = _ := readMembers_printFields loads enough
  rw [List.append_nil] at members
  have reads : reader ('\x7b' :: printFields fields) = .ok (request,[]) := by
    rw [reader]
    simp only [begins,members,bind,Except.bind,ofDraft_fields,fitting]
  have written : request.encode.toList = '\x7b' :: printFields fields := String.toList_ofList
  rw [decode,readAll,written,reads]
  rfl

/-- An id that can be held by what has been read of a request. -/
def Draft.Bounded (draft : Draft) : Prop := ∀ id ∈ draft.id, id < UInt64.size

theorem bounded_draftMember {held next : Draft} {name : String} {member : Reader Draft} {cs rest : List Char}
    (kept : held.Bounded) (takes : draftMember held name = .ok member) (reads : member cs = .ok (next,rest)) :
    next.Bounded := by
  rw [draftMember] at takes
  split at takes
  · split at takes
    · cases takes
    obtain rfl := Except.ok.inj takes
    obtain ⟨⟨doc,left⟩,value,same⟩ := exists_of_map reads
    obtain ⟨rfl,-⟩ := Prod.mk.inj same
    obtain ⟨n,rfl,holds⟩ := holds_of_read value
    rintro id ⟨⟩
    simp only [Width.holds,Bool.and_eq_true,decide_eq_true_eq] at holds
    change n.toNat < 18446744073709551616
    omega
  · obtain rfl := Except.ok.inj takes
    obtain ⟨⟨doc,left⟩,-,same⟩ := exists_of_map reads
    obtain ⟨rfl,-⟩ := Prod.mk.inj same
    exact kept

theorem id_of_ofDraft {draft : Draft} {request : Request} (drafted : ofDraft draft = .ok request) :
    request.id ∈ draft.id := by
  rw [ofDraft] at drafted
  split at drafted
  · cases drafted
  next id given =>
    obtain ⟨⟨named,fields⟩,-,drafted⟩ := exists_of_bind drafted
    dsimp only at drafted
    split at drafted
    · cases drafted
    · obtain ⟨method,-,rfl⟩ := exists_of_map drafted
      exact given

theorem id_lt_of_decode {text : String} {request : Request} (reads : decode text = .ok request) :
    request.id < UInt64.size := by
  obtain ⟨rest,reads⟩ := exists_of_readAll reads
  rw [reader] at reads
  split at reads
  · obtain ⟨⟨draft,left⟩,members,reads⟩ := exists_of_bind reads
    obtain ⟨found,fits,same⟩ := exists_of_bind reads
    obtain ⟨rfl,-⟩ := Prod.mk.inj (Except.ok.inj same)
    have nothing : ({} : Draft).Bounded := fun id none => by cases none
    have bounded : draft.Bounded := readMembers_keeps bounded_draftMember nothing members
    exact bounded found.id (id_of_ofDraft (eq_of_fitting fits))
  · cases reads

theorem brace_mem_of_decode {text : String} {request : Request} (reads : decode text = .ok request) : '\x7b' ∈ text.toList := by
  obtain ⟨rest,reads⟩ := exists_of_readAll reads
  rw [reader] at reads
  split at reads
  next begins =>
    have later : '\x7b' ∈ skipGaps text.toList := begins ▸ .head _
    exact (List.dropWhile_sublist _).subset later
  · cases reads

end Request
end AppGrants.Service
