import ErrorTables.CommandLine.Generate

/-! Reading the arguments of the command, option by option. Only the option for help asks for help,
and what follows an option is read from what the option has left.
-/

namespace ErrorTables.CommandLine

/-- The effect of an option leaves it open whether help is asked for. -/
def Effect.KeepsHelp : Effect Request → Prop
  | .flag apply => ∀ request, (apply request).help = request.help
  | .valued apply => ∀ value request, (apply value request).help = request.help

namespace Request

theorem keepsHelp_of_lookup_names {name : String} {effect : Effect Request}
    (found : table.names.lookup name = some effect) (other : name ≠ "--help")
    : effect.KeepsHelp := by
  have keeps : ∀ option ∈ table.names, option.1 ≠ "--help" → option.2.KeepsHelp := by
    simp [table, choose, choosePath, outputDirectory, listPath, settingsFile, reportFile, silence,
      Effect.KeepsHelp]
  obtain ⟨before, after, split, -⟩ := List.lookup_eq_some_iff.mp found
  exact keeps (name, effect) (by simp [split]) other

theorem keepsHelp_of_lookup_letters {letter : Char} {effect : Effect Request}
    (found : table.letters.lookup letter = some effect)
    : effect.KeepsHelp := by
  have keeps : ∀ option ∈ table.letters, option.2.KeepsHelp := by
    simp [table, choose, choosePath, outputDirectory, settingsFile, silence, Effect.KeepsHelp]
  obtain ⟨before, after, split, -⟩ := List.lookup_eq_some_iff.mp found
  exact keeps (letter, effect) (by simp [split])

/-- An argument without an equals sign is a name. -/
theorem eq_of_splitAssignment {argument name : String}
    (split : splitAssignment argument = (name, none))
    : argument = name := by
  have front : argument.toList.takeWhile (· ≠ '=') <+: argument.toList :=
    List.takeWhile_prefix _
  simp only [splitAssignment] at split
  split at split
  · simp at split
  · rename_i behind
    obtain rfl := (Prod.mk.inj split).1
    rw [front.eq_of_length_le (List.drop_eq_nil_iff.mp behind), String.ofList_toList]

/-- A value that follows an option is one of the arguments. -/
theorem takeValue_spec {name : String} {apply : String → Request → Request}
    {choices after : Request} {rest left : List String}
    (keeps : ∀ value request, (apply value request).help = request.help)
    (taken : OptionTable.takeValue name apply choices rest = .ok (after, left))
    : after.help = choices.help ∧ left <:+ rest := by
  cases rest with
  | nil => simp [OptionTable.takeValue] at taken
  | cons value rest =>
      obtain ⟨rfl, rfl⟩ : apply value choices = after ∧ rest = left := by
        simpa [OptionTable.takeValue] using taken
      exact ⟨keeps value choices, List.suffix_cons value rest⟩

/-- No letter asks for help. The induction is on the letters. -/
theorem readCluster_spec {choices after : Request} {rest left : List String} {letters : List Char}
    (read : table.readCluster choices rest letters = .ok (after, left))
    : after.help = choices.help ∧ left <:+ rest := by
  induction letters generalizing choices with
  | nil =>
      obtain ⟨rfl, rfl⟩ : choices = after ∧ rest = left := by
        simpa [OptionTable.readCluster] using read
      exact ⟨rfl, List.suffix_rfl⟩
  | cons letter more ih =>
      unfold OptionTable.readCluster at read
      cases found : table.letters.lookup letter with
      | none => simp [found] at read
      | some effect =>
          have keeps := keepsHelp_of_lookup_letters found
          cases effect with
          | flag apply =>
              simp only [found] at read
              obtain ⟨same, suffix⟩ := ih read
              exact ⟨same.trans (keeps choices), suffix⟩
          | valued apply =>
              simp only [found] at read
              split at read
              · exact takeValue_spec keeps read
              · obtain ⟨rfl, rfl⟩ := Prod.mk.inj (Except.ok.inj read)
                exact ⟨keeps _ _, List.suffix_rfl⟩

/-- An option other than the one for help does not ask for it. -/
theorem readOption_spec {choices after : Request} {argument : String} {rest left : List String}
    (read : table.readOption choices argument rest = .ok (after, left))
    (other : argument ≠ "--help")
    : after.help = choices.help ∧ left <:+ rest := by
  unfold OptionTable.readOption at read
  rcases split : splitAssignment argument with ⟨name, value⟩
  simp only [split] at read
  cases found : table.names.lookup name with
  | none =>
      simp only [found] at read
      split at read
      · contradiction
      · exact readCluster_spec read
  | some effect =>
      cases effect with
      | flag apply =>
          cases value with
          | some value => simp [found] at read
          | none =>
              obtain rfl := eq_of_splitAssignment split
              obtain ⟨rfl, rfl⟩ : apply choices = after ∧ rest = left := by
                simpa [found] using read
              exact ⟨keepsHelp_of_lookup_names found other choices, List.suffix_rfl⟩
      | valued apply =>
          have keeps : Effect.KeepsHelp (.valued apply) := by
            refine keepsHelp_of_lookup_names found ?_
            rintro rfl
            have flag : ∃ apply, table.names.lookup "--help" = some (.flag apply) := ⟨_, rfl⟩
            obtain ⟨apply', flag⟩ := flag
            rw [found] at flag
            simp at flag
          cases value with
          | none =>
              simp only [found] at read
              exact takeValue_spec keeps read
          | some value =>
              obtain ⟨rfl, rfl⟩ : apply value choices = after ∧ rest = left := by
                simpa [found] using read
              exact ⟨keeps value choices, List.suffix_rfl⟩

/-- An option is read, and then what it leaves. -/
theorem read_option {choices : Request} {argument : String} {rest : List String}
    (more : argument ≠ "--") (option : isOption argument = true)
    : table.read choices (argument :: rest)
      = (table.readOption choices argument rest).bind fun (next, left) => table.read next left := by
  rw [OptionTable.read, if_neg more, if_pos option]
  split <;> simp_all [Except.bind]

/-- What is no option is handed on. -/
theorem read_value {choices : Request} {argument : String} {rest : List String}
    (more : argument ≠ "--") (value : ¬ isOption argument = true)
    : table.read choices (argument :: rest)
      = (table.read choices rest).map fun (next, others) => (next, argument :: others) := by
  rw [OptionTable.read, if_neg more, if_neg value]

/-- Arguments none of which is the option for help do not ask for it. The induction follows the
reading of the arguments.
-/
theorem help_eq_of_read {choices after : Request} {arguments others : List String}
    (read : table.read choices arguments = .ok (after, others)) (without : "--help" ∉ arguments)
    : after.help = choices.help := by
  induction choices, arguments using OptionTable.read.induct table generalizing others with
  | case1 choices =>
      obtain ⟨rfl, -⟩ : choices = after ∧ [] = others := by simpa [OptionTable.read] using read
      rfl
  | case2 choices rest =>
      obtain ⟨rfl, -⟩ : choices = after ∧ rest = others := by
        simpa [OptionTable.read] using read
      rfl
  | case3 choices argument rest more option error refused =>
      simp [read_option more option, refused, Except.bind] at read
  | case4 choices argument rest more option next left taken ih =>
      rw [List.mem_cons, not_or] at without
      obtain ⟨same, suffix⟩ := readOption_spec taken (Ne.symm without.1)
      rw [read_option more option, taken] at read
      exact (ih read fun member => without.2 (suffix.mem member)).trans same
  | case5 choices argument rest more value ih =>
      rw [read_value more value] at read
      cases onward : table.read choices rest with
      | error error => simp [onward, Except.map] at read
      | ok reached =>
          obtain ⟨rfl, -⟩ : reached.1 = after ∧ argument :: reached.2 = others := by
            simpa [onward, Except.map] using read
          exact ih onward fun member => without (List.mem_cons_of_mem _ member)

end Request

end ErrorTables.CommandLine
