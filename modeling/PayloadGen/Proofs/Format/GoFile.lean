import PayloadGen.Proofs.Format.Sheet
import PayloadGen.Proofs.Text.Pieces

/-!
# When a Go file is written

A Go file is put together from parts, each of which may turn out to be no Go: the header, the name
of the package, the structs, the handler types and the map of topics. It is written if all of them
are there and no character in it is refused (`Go.file?_eq_some_iff`). So every type has its struct
in a file that is written (`Go.exists_struct_of_file?`).
-/

namespace PayloadGen.Format.Go

open Text

/-- A file is written if its parts are, and holds them in turn. -/
theorem file?_eq_some_iff {package text : String} {s : Sheet} :
    file? package s = some text ↔ ∃ header name structs handlers topics,
      header? s.title s.version = some header ∧
      packageName? (if package = "" then defaultPackage else package) = some name ∧
      s.types.mapM struct? = some structs ∧ s.callbacks.mapM handler? = some handlers ∧
      topicMap? s.topics = some topics ∧ isAdmitted text = true ∧
      text = header ++ "package " ++ name ++ "\n" ++ String.join structs ++ String.join handlers ++
        topics := by
  simp only [file?, Option.bind_eq_bind, Option.bind_eq_some_iff, Option.ite_none_right_eq_some,
    Option.some.injEq]
  constructor
  · rintro ⟨header, hheader, name, hname, structs, hstructs, handlers, hhandlers, topics,
      htopics, htext, rfl⟩
    exact ⟨header, name, structs, handlers, topics, hheader, hname, hstructs, hhandlers,
      htopics, htext, rfl⟩
  · rintro ⟨header, name, structs, handlers, topics, hheader, hname, hstructs, hhandlers,
      htopics, htext, rfl⟩
    exact ⟨header, hheader, name, hname, structs, hstructs, handlers, hhandlers, topics,
      htopics, htext, rfl⟩

theorem exists_of_mapM_eq_some {α β : Type} {f : α → Option β} {xs : List α} {ys : List β}
    (h : xs.mapM f = some ys) : ∀ x ∈ xs, ∃ y ∈ ys, f x = some y := by
  induction xs generalizing ys with
  | nil => simp
  | cons x xs ih =>
    rw [List.mapM_cons] at h
    obtain ⟨y, hy, h⟩ := Option.bind_eq_some_iff.1 h
    obtain ⟨ys, hys, h⟩ := Option.bind_eq_some_iff.1 h
    obtain rfl := Option.some.inj h
    refine List.forall_mem_cons.2 ⟨⟨y, List.mem_cons_self, hy⟩, fun x hx => ?_⟩
    obtain ⟨z, hz, hxz⟩ := ih hys x hx
    exact ⟨z, List.mem_cons_of_mem _ hz, hxz⟩

/-- The struct of every type stands in a file that is written. -/
theorem exists_struct_of_file? {package text : String} {s : Sheet}
    (h : file? package s = some text) :
    ∀ t ∈ s.types, ∃ struct before after, struct? t = some struct ∧
      text = before ++ struct ++ after := by
  intro t ht
  obtain ⟨header, name, structs, handlers, topics, -, -, hstructs, -, -, -, rfl⟩ :=
    file?_eq_some_iff.1 h
  obtain ⟨struct, hmem, hstruct⟩ := exists_of_mapM_eq_some hstructs t ht
  obtain ⟨before, after, hjoin⟩ := exists_join_of_mem hmem
  refine ⟨struct, header ++ "package " ++ name ++ "\n" ++ before,
    after ++ String.join handlers ++ topics, hstruct, ?_⟩
  rw [hjoin]
  simp only [String.append_assoc]

/-- Every type of a file that is written has a struct. -/
theorem exists_struct?_of_file? {package text : String} {s : Sheet}
    (h : file? package s = some text) : ∀ t ∈ s.types, ∃ struct, struct? t = some struct := by
  intro t ht
  obtain ⟨struct, -, -, hstruct, -⟩ := exists_struct_of_file? h t ht
  exact ⟨struct, hstruct⟩

/-- Every callback of a file that is written has a handler type. -/
theorem exists_handler?_of_file? {package text : String} {s : Sheet}
    (h : file? package s = some text) :
    ∀ c ∈ s.callbacks, ∃ handler, handler? c = some handler := by
  intro c hc
  obtain ⟨_, _, _, handlers, _, -, -, -, hhandlers, -⟩ := file?_eq_some_iff.1 h
  obtain ⟨handler, -, hhandler⟩ := exists_of_mapM_eq_some hhandlers c hc
  exact ⟨handler, hhandler⟩

theorem exists_file?_of_render {package text : String} {u : CompiledUnit}
    (h : render package u = .ok text) :
    ∃ s, dialect.sheet u = .ok s ∧ file? package s = some text := by
  obtain ⟨s, hs, h⟩ := Except.bind_eq_ok_iff.1 h
  refine ⟨s, hs, ?_⟩
  cases hfile : file? package s with
  | none => simp [hfile] at h
  | some text' =>
    rw [hfile] at h
    rw [Except.ok.inj h]

end PayloadGen.Format.Go
