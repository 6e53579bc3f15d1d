import PgConsole.Connection.Client
import PgConsole.Proofs.ConnectionKey

/-!
# Roles stay within their quotes

`Sql.identifier?` reads a quoted identifier by the rule of the server's language, and `Sql.roleOf?`
a whole statement that assumes a role.  A quoted name is read back with nothing behind it, whatever
characters it has: a quote in the name never ends the identifier.  So `setRole` writes the one
statement that is read as assuming the role, and a connection has its client run that statement and
no other, whatever client it is (`DatabaseClient.role_is_one_identifier`).

A name with a NUL character is no identifier; a client is given the statement for it all the same.
What the server does with the name it has read, such as refusing an empty one, is not treated here.
-/

namespace PgConsole

namespace Sql

/-- The name of a quoted identifier whose opening quote has been read, and what follows the quote
that closes it.  A doubled quote is one quote of the name, so the first undoubled one closes it. -/
def closeQuote? : List Char → Option (List Char × List Char)
  | [] => none
  | '"' :: '"' :: rest => (closeQuote? rest).map fun read => ('"' :: read.1, read.2)
  | '"' :: rest => some ([], rest)
  | c :: rest =>
    if c = Char.ofNat 0 then none
    else (closeQuote? rest).map fun read => (c :: read.1, read.2)

/-- The name of the quoted identifier that a text starts with, and what follows it. -/
def identifier? : List Char → Option (List Char × List Char)
  | '"' :: rest => closeQuote? rest
  | _ => none

/-- The role that a statement assumes, if there is nothing in it beyond the name of the role. -/
def roleOf? (statement : String) : Option String :=
  match (Text.stripStart? "SET ROLE ".toList statement.toList).bind identifier? with
  | some (name, []) => some (String.ofList name)
  | _ => none

/-! ## Quoted identifiers -/

/-- A name as it stands between its quotes. -/
def doubled (name : List Char) : List Char :=
  name.flatMap fun c => if c = '"' then ['"', '"'] else [c]

theorem doubled_quote (name : List Char) : doubled ('"' :: name) = '"' :: '"' :: doubled name := by
  rw [doubled, List.flatMap_cons, if_pos rfl]
  rfl

theorem doubled_cons {c : Char} (hQuote : c ≠ '"') (name : List Char) :
    doubled (c :: name) = c :: doubled name := by
  rw [doubled, List.flatMap_cons, if_neg hQuote]
  rfl

theorem toList_quoteIdentifier (name : String) :
    (quoteIdentifier name).toList = '"' :: (doubled name.toList ++ ['"']) := by
  rw [quoteIdentifier, String.toList_ofList]
  rfl

theorem closeQuote?_doubled {name rest : List Char} (hName : Char.ofNat 0 ∉ name)
    (hRest : rest.head? ≠ some '"') :
    closeQuote? (doubled name ++ '"' :: rest) = some (name, rest) := by
  induction name with
  | nil =>
      rw [doubled, List.flatMap_nil, List.nil_append, closeQuote?.eq_3]
      rintro more rfl
      exact hRest rfl
  | cons c name ih =>
      rw [List.mem_cons, not_or] at hName
      have hRead := ih hName.2
      by_cases hQuote : c = '"'
      · rw [hQuote, doubled_quote, List.cons_append, List.cons_append, closeQuote?, hRead]
        rfl
      · rw [doubled_cons hQuote, List.cons_append,
          closeQuote?.eq_4 _ _ (fun _ h => absurd h hQuote) hQuote, if_neg (Ne.symm hName.1), hRead]
        rfl

/-- What is read up to a closing quote stands there doubled. -/
theorem eq_doubled_of_closeQuote? {text name rest : List Char}
    (h : closeQuote? text = some (name, rest)) :
    Char.ofNat 0 ∉ name ∧ rest.head? ≠ some '"' ∧ text = doubled name ++ '"' :: rest := by
  fun_induction closeQuote? text generalizing name rest with
  | case1 => cases h
  | case2 more ih =>
      obtain ⟨⟨others, remaining⟩, hRead, hName⟩ := Option.map_eq_some_iff.mp h
      cases hName
      obtain ⟨hOthers, hHead, rfl⟩ := ih hRead
      refine ⟨by simp [hOthers], hHead, ?_⟩
      rw [doubled_quote]
      rfl
  | case3 more hSingle =>
      cases h
      refine ⟨List.not_mem_nil, ?_, rfl⟩
      intro hHead
      obtain ⟨tail, rfl⟩ := List.head?_eq_some_iff.mp hHead
      exact hSingle tail rfl
  | case4 => cases h
  | case5 c more _ hQuote hNul ih =>
      obtain ⟨⟨others, remaining⟩, hRead, hName⟩ := Option.map_eq_some_iff.mp h
      cases hName
      obtain ⟨hOthers, hHead, rfl⟩ := ih hRead
      refine ⟨by simp [hOthers, Ne.symm hNul], hHead, ?_⟩
      rw [doubled_cons hQuote]
      rfl

/-- A text is read as a quoted identifier up to a place exactly if it is the quoted name up to
there, and no further quote follows. -/
theorem identifier?_eq_some_iff {text name rest : List Char} :
    identifier? text = some (name, rest) ↔
      Char.ofNat 0 ∉ name ∧ rest.head? ≠ some '"' ∧
        text = '"' :: (doubled name ++ '"' :: rest) := by
  constructor
  · intro h
    unfold identifier? at h
    split at h
    · obtain ⟨hName, hRest, rfl⟩ := eq_doubled_of_closeQuote? h
      exact ⟨hName, hRest, rfl⟩
    · cases h
  · rintro ⟨hName, hRest, rfl⟩
    exact closeQuote?_doubled hName hRest

/-- A quoted name is read back with nothing behind it, and no other text is read as that name. -/
theorem identifier?_eq_quoteIdentifier_iff {text name : String} :
    identifier? text.toList = some (name.toList, []) ↔
      Char.ofNat 0 ∉ name.toList ∧ text = quoteIdentifier name := by
  rw [identifier?_eq_some_iff, ← String.toList_inj, toList_quoteIdentifier]
  simp

theorem toList_setRole (role : String) :
    (setRole role).toList = "SET ROLE ".toList ++ (quoteIdentifier role).toList := by
  rw [setRole, String.toList_append]

/-- The statement for a role assumes that role and does nothing else, and it is the only one that
does.  Only a role with a NUL character has no such statement. -/
theorem roleOf?_eq_some_iff {statement role : String} :
    roleOf? statement = some role ↔ Char.ofNat 0 ∉ role.toList ∧ statement = setRole role := by
  constructor
  · intro h
    unfold roleOf? at h
    split at h
    · rename_i name hRead
      obtain rfl : String.ofList name = role := Option.some.inj h
      obtain ⟨quoted, hStart, hName⟩ := Option.bind_eq_some_iff.mp hRead
      rw [← String.toList_ofList (l := quoted), ← String.toList_ofList (l := name),
        identifier?_eq_quoteIdentifier_iff] at hName
      have hText := Text.eq_append_of_stripStart? hStart
      refine ⟨hName.1, ?_⟩
      rw [← String.toList_inj, hText, toList_setRole, ← hName.2,
        String.toList_ofList (l := quoted)]
    · cases h
  · rintro ⟨hRole, rfl⟩
    have hRead := identifier?_eq_quoteIdentifier_iff.mpr ⟨hRole, rfl⟩
    simp only [roleOf?, toList_setRole, Text.stripStart?_append, Option.bind_some, hRead,
      String.ofList_toList]

end Sql

namespace DatabaseClient

variable {World Handle : Type}

/-! ## What a connection has its client run -/

/-- What a client does for a connection: the session is started, and then the statement for the
role, if there is one, is run in it. -/
def roleDeeds (session : Handle) (role : Option String) : List (ClientDeed Handle) :=
  .started session :: role.toList.map fun role => .executed session (setRole role)

theorem recorded_assumeRole (client : DatabaseClient World Handle) (session : Handle)
    (role : Option String) (world : World) (before : List (ClientDeed Handle)) :
    client.recorded.assumeRole session role (world, before) =
      ((client.assumeRole session role world).1, (client.assumeRole session role world).2,
        before ++ role.toList.map fun role => .executed session (setRole role)) := by
  cases role with
  | none => simp [assumeRole]
  | some role => rfl

/-- A client that is watched answers as it would otherwise.  It does nothing for a connection whose
session is not started, and assumes the role in every session that is. -/
theorem recorded_connect (client : DatabaseClient World Handle) (params : ConnectParams)
    (world : World) (before : List (ClientDeed Handle)) :
    ∃ deeds, client.recorded.connect params (world, before) =
        ((client.connect params world).1, (client.connect params world).2, before ++ deeds) ∧
      (deeds = [] ∨ ∃ session, (client.start params world).1 = .ok session ∧
        deeds = roleDeeds session params.role) ∧
      ∀ session, (client.connect params world).1 = .ok session →
        deeds = roleDeeds session params.role := by
  have hFiles : client.recorded.checkFiles params.ssl (world, before) =
      client.checkFiles params.ssl world := rfl
  have hStart : client.recorded.start params (world, before) =
      ((client.start params world).1, (client.start params world).2,
        before ++ (client.start params world).1.toOption.toList.map .started) := rfl
  simp only [connect, hFiles, hStart]
  -- a connection can fail at its files, at the start of its session and at its role
  cases client.checkFiles params.ssl world with
  | error error => exact ⟨[], by simp, .inl rfl, by simp⟩
  | ok _ =>
      obtain ⟨started, world⟩ := client.start params world
      cases started with
      | error error => exact ⟨[], by simp [Except.toOption], .inl rfl, by simp⟩
      | ok session =>
          simp only [Except.toOption, Option.toList_some, List.map_cons, List.map_nil,
            recorded_assumeRole, List.append_assoc, List.singleton_append]
          obtain ⟨assumed, world⟩ := client.assumeRole session params.role world
          refine ⟨roleDeeds session params.role, ?_, .inr ⟨session, rfl, rfl⟩, ?_⟩
          · cases assumed with
            | error error => rfl
            | ok _ => rfl
          · intro other hOther
            cases assumed with
            | error error => cases hOther
            | ok _ =>
                cases hOther
                rfl

/-- A quoted role is one identifier, read back as the role itself; it is none only if the role has a
NUL character, and no other text is read so.  The statement for a role is one that assumes this role
and has nothing beyond that identifier, and no other statement is.  Whatever the client is, a
connection has it run no statement but the one for the role, in the session that was started, and a
connection that stands has had it run. -/
theorem role_is_one_identifier :
    (∀ role text : String, Sql.identifier? text.toList = some (role.toList, []) ↔
        Char.ofNat 0 ∉ role.toList ∧ text = quoteIdentifier role) ∧
      (∀ role statement : String, Sql.roleOf? statement = some role ↔
        Char.ofNat 0 ∉ role.toList ∧ statement = setRole role) ∧
      ∀ {World Handle : Type} (client : DatabaseClient World Handle) (params : ConnectParams)
        (world : World), ∃ deeds, client.recorded.connect params (world, []) =
          ((client.connect params world).1, (client.connect params world).2, deeds) ∧
        (deeds = [] ∨ ∃ session, (client.start params world).1 = .ok session ∧
          deeds = roleDeeds session params.role) ∧
        ∀ session, (client.connect params world).1 = .ok session →
          deeds = roleDeeds session params.role := by
  refine ⟨fun _ _ => Sql.identifier?_eq_quoteIdentifier_iff, fun _ _ => Sql.roleOf?_eq_some_iff, ?_⟩
  intro World Handle client params world
  exact client.recorded_connect params world []

/-- A client whose sessions start and whose statements run, with one handle for all of them. -/
def obliging : DatabaseClient Unit Unit where
  checkFiles _ _ := .ok ()
  start _ world := (.ok (), world)
  execute _ _ world := (.ok (), world)

/-- A connection under a role whose name has a quote at either end of a second statement. -/
def quotingParams : ConnectParams where
  host := "/run"
  hostaddr := none
  port := 5432
  database := "postgres"
  user := "admin"
  password := none
  role := some "ops\"; DROP TABLE t; --\""
  ssl := { mode := .disable }
  applicationName := "console"
  timeout := none

/-- That connection stands, and the second statement has remained part of the name. -/
theorem role_is_one_identifier_with_quotes :
    obliging.recorded.connect quotingParams ((), []) = (.ok (), (),
      [.started (), .executed () "SET ROLE \"ops\"\"; DROP TABLE t; --\"\"\""]) ∧
      Sql.roleOf? "SET ROLE \"ops\"\"; DROP TABLE t; --\"\"\"" =
        some "ops\"; DROP TABLE t; --\"" := by
  obtain ⟨-, hRole, hConnect⟩ := role_is_one_identifier
  have hStatement : setRole "ops\"; DROP TABLE t; --\"" =
      "SET ROLE \"ops\"\"; DROP TABLE t; --\"\"\"" := by decide
  obtain ⟨deeds, hRecorded, -, hDeeds⟩ := hConnect obliging quotingParams ()
  have hStands : (obliging.connect quotingParams ()).1 = .ok () := rfl
  refine ⟨?_, (hRole _ _).mpr ⟨by decide, hStatement.symm⟩⟩
  rw [hRecorded, hDeeds () hStands, ← hStatement]
  rfl

end DatabaseClient
end PgConsole
