import ComponentAtlas.Proofs.Script.Readers
import ComponentAtlas.Script.Statements

/-! # Rows of scripts

Every rule of the grammar reads fragments within the last row, because it is put together from
readers that do. So no node of a script begins behind the last line feed of its text. The lemmas
follow the rules one by one. -/

namespace ComponentAtlas.Script

open ComponentAtlas.Tree

variable {last : Nat}

namespace Keeps

/-! ## Types, patterns and signatures -/

theorem typeNote : Reads last Reader.annotation := .other ⟨.lexeme, .nonterminal⟩

theorem promise : Reads last Reader.promise :=
  .choice
    ⟨.other ⟨.lexeme, .lexeme, .optional (.sequence ⟨.lexeme, .nonterminal⟩)⟩,
     .other ⟨.lexeme, .lexeme, .nonterminal⟩,
     .nonterminal⟩

theorem returnType : Reads last Reader.returnType := .other ⟨.lexeme, .promise⟩

theorem bracketedTypes {opening : Reader Fragment} (h : Reads last opening) :
    Reads last (Reader.bracketedTypes opening) :=
  .typed (.other ⟨h, .separated .lexeme .nonterminal, .lexeme⟩)

theorem typeArguments : Reads last Reader.typeArguments := .bracketedTypes .lexeme

theorem callTypeArguments : Reads last Reader.callTypeArguments := .bracketedTypes .lexeme

theorem variance : Reads last Reader.variance := .guarded (.choice ⟨.lexeme, .lexeme, .lexeme⟩)

theorem typeParameters : Reads last Reader.typeParameters :=
  .typed (.other
    ⟨.lexeme,
     .separated .lexeme (.other
      ⟨.many .variance, .field .lexeme, .optional (.other ⟨.lexeme, .nonterminal⟩),
       .optional (.other ⟨.lexeme, .nonterminal⟩)⟩),
     .lexeme⟩)

theorem initializerIn {mode : Mode} : Reads last (Reader.initializerIn mode) :=
  .sequence ⟨.lexeme, .field .nonterminal⟩

theorem computedName : Reads last Reader.computedName := .other ⟨.lexeme, .nonterminal, .lexeme⟩

theorem propertyName : Reads last Reader.propertyName :=
  .choice ⟨.lexeme, .lexeme, .lexeme, .lexeme, .computedName⟩

theorem argumentList : Reads last Reader.argumentList :=
  .other ⟨.lexeme, .commaList (.orElse (.other ⟨.lexeme, .nonterminal⟩) .nonterminal), .lexeme⟩

theorem memberPath_extend {count : Nat} {path : Fragment} (within : path.Within last) :
    Reads last (Reader.memberPath.extend count path) := by
  induction count generalizing path with
  | zero => exact .pure within
  | succ count ih =>
    refine .bind (.attempt (.sequence ⟨.lexeme, .field .lexeme⟩)) fun found holds => ?_
    cases found with
    | none => exact .pure within
    | some step => exact ih (((within.withField _).append (holds step rfl)).close _)

theorem memberPath : Reads last Reader.memberPath :=
  .bind .lexeme fun _ first => .bind .get fun _ _ => .memberPath_extend first

theorem decoratorTarget : Reads last Reader.decoratorTarget :=
  .bind .memberPath fun _ path => .orElse
    (.bind (.sequence ⟨.optional .typeArguments, .argumentList⟩) fun _ call =>
      .pure (((path.withField _).append call).close _))
    (.pure path)

theorem decorator : Reads last Reader.decorator :=
  .node
    ⟨.lexeme,
     .choice
      ⟨.decoratorTarget, .node ⟨.lexeme, .decoratorTarget, .lexeme⟩,
       .node ⟨.lexeme, .nonterminal, .lexeme⟩⟩⟩

theorem parameterModifier : Reads last Reader.parameterModifier :=
  .guarded (.choice (.map fun _ => .lexeme))

theorem parameter : Reads last Reader.parameter :=
  .other
    ⟨.many .decorator, .many (.typed .parameterModifier), .optional .lexeme, .nonterminal,
     .optional (.typed .lexeme), .optional (.typed .typeNote), .optional .initializerIn⟩

theorem parameters : Reads last Reader.parameters :=
  .other ⟨.lexeme, .commaList .parameter, .lexeme⟩

theorem signature : Reads last Reader.signature :=
  .sequence ⟨.optional .typeParameters, .parameters, .optional (.typed .returnType)⟩

theorem patternRule : Reads last Reader.patternRule :=
  have withDefault : Reads last
      (.sequence [Script.nonterminal .pattern, .optional (.initializerIn {})]) :=
    .sequence ⟨.nonterminal, .optional .initializerIn⟩
  have rest : Reads last (.other "rest_pattern" [.mark "...", Script.nonterminal .pattern]) :=
    .other ⟨.lexeme, .nonterminal⟩
  have holes : Reads last (.many (.mark ",")) := .many .lexeme
  .choice
    ⟨.other
      ⟨.openBrace,
       .commaList (.choice
        ⟨rest, .other ⟨.propertyName, .lexeme, withDefault⟩,
         .sequence ⟨.lexeme, .optional .initializerIn⟩⟩),
       .closeBrace⟩,
     .other
      ⟨.lexeme, holes, .many (.sequence ⟨.choice ⟨rest, withDefault⟩, holes⟩), .lexeme⟩,
     .lexeme⟩

theorem namedType : Reads last Reader.namedType :=
  .other ⟨.lexeme, .many (.sequence ⟨.lexeme, .lexeme⟩), .optional .typeArguments⟩

theorem typeWord {w : String} : Reads last (Reader.typeWord w) := .guarded .lexeme

theorem sign : Reads last Reader.sign := .choice ⟨.lexeme, .lexeme⟩

theorem typeMember : Reads last Reader.typeMember :=
  have modifier : Reads last _ := .guarded (.choice (.map fun _ => .lexeme))
  .choice
    ⟨.other ⟨.optional .lexeme, .lexeme, .signature⟩,
     .other
      ⟨.optional (.sequence ⟨.optional .sign, .lexeme⟩), .lexeme, .lexeme,
       .choice
        ⟨.sequence ⟨.lexeme, .nonterminal⟩,
         .sequence ⟨.lexeme, .nonterminal, .optional (.sequence ⟨.lexeme, .nonterminal⟩)⟩⟩,
       .lexeme, .optional (.sequence ⟨.optional .sign, .lexeme⟩), .optional .typeNote⟩,
     .other ⟨.many modifier, .propertyName, .optional .lexeme, .signature⟩,
     .other .signature,
     .other ⟨.many modifier, .propertyName, .optional .lexeme, .optional .typeNote⟩⟩

theorem objectType : Reads last Reader.objectType :=
  .other ⟨.openBrace, .many (.choice ⟨.lexeme, .lexeme, .typeMember⟩), .closeBrace⟩

theorem tupleMember : Reads last Reader.tupleMember :=
  .choice
    ⟨.other ⟨.optional .lexeme, .lexeme, .optional .lexeme, .lexeme, .nonterminal⟩,
     .other ⟨.lexeme, .nonterminal⟩,
     .sequence ⟨.nonterminal, .optional .lexeme⟩⟩

theorem primaryType : Reads last Reader.primaryType :=
  .choice
    ⟨.other ⟨.lexeme, .nonterminal, .lexeme⟩,
     .other ⟨.lexeme, .commaList .tupleMember, .lexeme⟩,
     .objectType, .lexeme, .lexeme,
     .other ⟨.lexeme, .lexeme⟩,
     .template .nonterminal,
     .other
      ⟨.lexeme,
       .choice ⟨.other ⟨.lexeme, .lexeme, .nonterminal, .lexeme⟩, .lexeme⟩,
       .many (.sequence ⟨.lexeme, .choice ⟨.lexeme, .lexeme⟩⟩), .optional .typeArguments⟩,
     .other
      ⟨.lexeme, .lexeme, .nonterminal, .lexeme, .many (.sequence ⟨.lexeme, .lexeme⟩),
       .optional .typeArguments⟩,
     .namedType, .lexeme⟩

theorem sameLine : Keeps last (fun _ => True) Reader.sameLine :=
  .bind .get fun _ _ => .ite .failure (.pure trivial)

theorem typeOperandRule : Reads last Reader.typeOperandRule :=
  .choice
    ⟨.other
      ⟨.lexeme, .lexeme,
       .optional (.sequence
        ⟨.lexeme, .nonterminal, .bind .ahead fun _ _ => .nothing⟩)⟩,
     .choice (.map fun _ => .other ⟨.typeWord, .nonterminal⟩),
     .sequence
      ⟨.primaryType,
       .many (.sequence
        ⟨.bind .sameLine fun _ _ => .lexeme, .optional .nonterminal, .lexeme⟩)⟩⟩

theorem typeRule : Reads last Reader.typeRule :=
  have function : Reads last (.other "function_type"
      [.optional .typeParameters, .parameters, .mark "=>", .promise]) :=
    .other ⟨.optional .typeParameters, .parameters, .lexeme, .promise⟩
  have joiner : Reads last (.choice [.markBefore "|" ['|'], .markBefore "&" ['&']]) :=
    .choice ⟨.lexeme, .lexeme⟩
  .choice
    ⟨function,
     .other
      ⟨.optional .lexeme, .lexeme, .optional .typeParameters, .parameters, .lexeme, .nonterminal⟩,
     .bind
      (.sequence
        ⟨.optional joiner, .nonterminal,
         .many (.sequence ⟨joiner, .choice ⟨function, .nonterminal⟩⟩)⟩)
      fun _ first => .orElse
        (.bind (.sequence
          ⟨.lexeme, .nonterminal, .lexeme, .nonterminal, .lexeme, .nonterminal⟩)
          fun _ branches => .pure ((first.append branches).close _))
        (.pure first)⟩

/-! ## Expressions -/

theorem binaryOperator {mode : Mode} : Reads last (Reader.binaryOperator mode) :=
  .choice ⟨.lexeme, .lexeme, .ite .failure .lexeme⟩

theorem typeTest : Reads last Reader.typeTest :=
  .typed (.choice ⟨.sequence ⟨.lexeme, .nonterminal⟩, .sequence ⟨.lexeme, .nonterminal⟩⟩)

theorem arrowBody {mode : Mode} : Reads last (Reader.arrowBody mode) :=
  .sequence ⟨.lexeme, .orElse .nonterminal .nonterminal⟩

/-- A word with which the line goes on. -/
theorem onLine {r : Reader Fragment} (h : Reads last r) :
    Reads last (do let f ← r; Reader.sameLine; return f) :=
  h.bind fun _ holds => .bind .sameLine fun _ _ => .pure holds

theorem arrowFunction {mode : Mode} : Reads last (Reader.arrowFunction mode) :=
  have async : Reads last (do let f ← Reader.keyword "async"; Reader.sameLine; return f) :=
    .onLine .lexeme
  have bare : Reads last (do let f ← Reader.identifier; Reader.ahead (beginsWith "=>"); return f) :=
    .guarded .lexeme
  .other
    ⟨.choice
      ⟨bare, .sequence ⟨async, bare⟩,
       .sequence
        ⟨.optional async, .optional .typeParameters, .parameters,
         .ite .nothing (.optional (.typed .returnType))⟩⟩,
     .arrowBody⟩

theorem functionExpression : Reads last Reader.functionExpression :=
  have start : Reads last (.sequence [.optional (.keyword "async"), .keyword "function"]) :=
    .sequence ⟨.optional .lexeme, .lexeme⟩
  have rest : Reads last
      (.sequence [.optional (.field .name .identifier), .signature, .block]) :=
    .sequence ⟨.optional (.field .lexeme), .signature, .nonterminal⟩
  .choice ⟨.node ⟨start, .lexeme, rest⟩, .node ⟨start, rest⟩⟩

theorem memberWord : Reads last Reader.memberWord := .guarded (.choice (.map fun _ => .lexeme))

theorem object : Reads last Reader.object :=
  .other
    ⟨.openBrace,
     .commaList (.choice
      ⟨.other ⟨.lexeme, .nonterminal⟩,
       .other ⟨.propertyName, .lexeme, .nonterminal⟩,
       .node
        ⟨.many .memberWord, .optional .lexeme, .field .propertyName, .optional (.typed .lexeme),
         .signature, .nonterminal⟩,
       .sequence ⟨.lexeme, .optional .initializerIn⟩⟩),
     .closeBrace⟩

theorem array : Reads last Reader.array :=
  .other
    ⟨.lexeme,
     .many (.choice ⟨.lexeme, .choice ⟨.other ⟨.lexeme, .nonterminal⟩, .nonterminal⟩⟩), .lexeme⟩

theorem parenthesized : Reads last Reader.parenthesized :=
  .node ⟨.lexeme, .nonterminal, .optional (.typed .typeNote), .lexeme⟩

theorem elementName : Reads last Reader.elementName :=
  .sequence ⟨.lexeme, .many (.sequence ⟨.choice ⟨.lexeme, .lexeme⟩, .lexeme⟩)⟩

theorem insertion : Reads last Reader.insertion :=
  .other
    ⟨.openBrace, .optional (.orElse (.other ⟨.lexeme, .nonterminal⟩) .nonterminal), .closeBrace⟩

theorem elementAttribute : Reads last Reader.elementAttribute :=
  .choice
    ⟨.insertion,
     .other
      ⟨.elementName,
       .optional (.sequence ⟨.lexeme, .choice ⟨.lexeme, .insertion, .nonterminal⟩⟩)⟩⟩

theorem elementRule : Reads last Reader.elementRule :=
  have content : Reads last (.sequence
      [.mark ">", .many (.choice [.elementText, .insertion, Script.nonterminal .element]),
       .other "jsx_closing_element"
        [.mark "<", .mark "/", .optional .elementName, .mark ">"]]) :=
    .sequence
      ⟨.lexeme, .many (.choice ⟨.rawText, .insertion, .nonterminal⟩),
       .other ⟨.lexeme, .lexeme, .optional .elementName, .lexeme⟩⟩
  .other
    ⟨.lexeme,
     .choice
      ⟨content,
       .sequence
        ⟨.sequence ⟨.elementName, .optional .typeArguments, .many .elementAttribute⟩,
         .choice ⟨.sequence ⟨.lexeme, .lexeme⟩, content⟩⟩⟩⟩

/-- A node over an operand and what follows it. -/
theorem suffixed {callee : Fragment} {rest : Reader Fragment} {kind : Kind} {f : Field}
    (operand : callee.Within last) (h : Reads last rest) :
    Reads last (do return (callee.withField f ++ (← rest)).close kind) :=
  h.bind fun _ holds => .pure (((operand.withField f).append holds).close kind)

theorem callSuffix {mode : Mode} {callee : Fragment} (operand : callee.Within last) :
    Reads last (Reader.callSuffix mode callee) :=
  have propertyName : Reads last
      (.field .property (.choice [.privateName, .anyWord (.other "property_identifier")])) :=
    .field (.choice ⟨.lexeme, .lexeme⟩)
  have subscript : Reads last (.sequence [.mark "[", .inner, .mark "]"]) :=
    .sequence ⟨.lexeme, .nonterminal, .lexeme⟩
  .bind (.goesOn mode) fun _ _ => .choice
    ⟨.suffixed operand (.sequence ⟨.lexeme, propertyName⟩),
     .suffixed operand .argumentList,
     .suffixed operand subscript,
     .suffixed operand (.template .nonterminal),
     .suffixed operand (.sequence ⟨.lexeme, .optional .callTypeArguments, .argumentList⟩),
     .suffixed operand (.sequence ⟨.lexeme, subscript⟩),
     .suffixed operand (.sequence ⟨.lexeme, propertyName⟩),
     .suffixed operand
      (.sequence ⟨.callTypeArguments, .orElse .argumentList (.template .nonterminal)⟩),
     .suffixed operand (.typed .lexeme),
     .suffixed operand (.guarded .callTypeArguments)⟩

theorem withSuffixes {suffix : Fragment → Reader Fragment}
    (h : ∀ f : Fragment, f.Within last → Reads last (suffix f)) {count : Nat} {operand : Fragment}
    (within : operand.Within last) : Reads last (Reader.withSuffixes suffix count operand) := by
  induction count generalizing operand with
  | zero => exact .pure within
  | succ count ih =>
    refine .bind (.attempt (h operand within)) fun found holds => ?_
    cases found with
    | none => exact .pure within
    | some longer => exact ih (holds longer rfl)

/-! ## Classes -/

theorem heritage : Reads last Reader.heritage :=
  have implementing : Reads last
      (.node .implementsClause [.keyword "implements", .separated (.mark ",") .type]) :=
    .node ⟨.lexeme, .separated .lexeme .nonterminal⟩
  .bind .read fun _ _ => .ite
    (.node (.choice
      ⟨.sequence
        ⟨.node
          ⟨.lexeme,
           .separated .lexeme (.sequence
            ⟨.field (.choice ⟨.guarded .nonterminal, .nonterminal⟩),
             .optional .callTypeArguments⟩)⟩,
         .optional implementing⟩,
       implementing⟩))
    (.node ⟨.lexeme, .nonterminal⟩)

theorem staticBlock : Reads last Reader.staticBlock := .other ⟨.lexeme, .nonterminal⟩

theorem memberEnd {site : SemicolonSite} : Reads last (Reader.memberEnd site) :=
  .choice ⟨.impliedSemicolon, .lexeme, .lexeme⟩

theorem modifier : Reads last Reader.modifier :=
  .bind .read fun _ _ => .choice
    ⟨.ite .failure .lexeme,
     .bind (.choice (.map fun _ => .lexeme)) fun _ holds =>
      .unlessImplied (.bind .ahead fun _ _ => .pure holds),
     .lexeme⟩

theorem indexSignature : Reads last Reader.indexSignature :=
  .other
    ⟨.many .modifier, .lexeme, .lexeme,
     .choice ⟨.sequence ⟨.lexeme, .nonterminal⟩, .sequence ⟨.lexeme, .nonterminal⟩⟩, .lexeme,
     .optional .typeNote⟩

theorem typedMember : Reads last Reader.typedMember :=
  .bind (.many .modifier) fun _ modifiers => .bind (.field .propertyName) fun _ name =>
    .bind (.optional (.choice ⟨.lexeme, .lexeme⟩)) fun _ mark =>
      have head := (modifiers.append name).append mark
      .orElse
        (.bind .signature fun _ parameters =>
          have announced := head.append parameters
          .orElse
            (.bind .nonterminal fun _ body => .bind (.optional .semicolon) fun _ stop =>
              .pure (((announced.append body).close _).append stop))
            (.bind .memberEnd fun _ stop => .pure ((announced.close _).append stop)))
        (.bind (.sequence ⟨.optional .typeNote, .optional .initializerIn⟩) fun _ value =>
          .bind .memberEnd fun _ stop => .pure (((head.append value).close _).append stop))

theorem plainMember : Reads last Reader.plainMember :=
  .bind (.sequence ⟨.many .decorator, .many .modifier, .field .propertyName⟩) fun _ head =>
    .orElse
      (.bind (.sequence ⟨.parameters, .nonterminal⟩) fun _ body =>
        .bind (.optional .lexeme) fun _ stop => .pure (((head.append body).close _).append stop))
      (.bind (.optional .initializerIn) fun _ value =>
        .bind .semicolon fun _ stop => .pure (((head.append value).close _).append stop))

theorem stray : Reads last Reader.stray := .lexeme

theorem strayInside : Reads last Reader.strayInside := .bind .ahead fun _ _ => .stray

theorem classBody : Reads last Reader.classBody :=
  .bind .read fun _ _ => .node
    ⟨.openBrace,
     .many (.ite
      (.choice
        ⟨.lexeme, .decorator, .staticBlock,
         .bind .indexSignature fun _ entry => .bind .memberEnd fun _ stop =>
          .pure (entry.append stop),
         .typedMember, .strayInside⟩)
      (.choice ⟨.lexeme, .staticBlock, .plainMember, .strayInside⟩)),
     .closeBrace⟩

theorem className : Reads last Reader.className :=
  .bind .read fun _ _ => .bind .ahead fun _ _ => .field .lexeme

theorem classExpression : Reads last Reader.classExpression :=
  .node
    ⟨.many .decorator, .lexeme, .optional .className, .optional .typeParameters,
     .optional .heritage, .classBody⟩

theorem classDeclaration : Reads last Reader.classDeclaration :=
  .node
    ⟨.many .decorator, .lexeme, .className, .optional .typeParameters, .optional .heritage,
     .classBody, .optional .impliedSemicolon⟩

theorem abstractClassDeclaration : Reads last Reader.abstractClassDeclaration :=
  .typed (.node
    ⟨.many .decorator, .lexeme, .lexeme, .className, .optional .typeParameters,
     .optional .heritage, .classBody⟩)

theorem constructed {primary : Reader Fragment} (h : Reads last primary) :
    Reads last (Reader.constructed primary) := by
  refine .bind h fun _ first => .bind .get fun _ _ => .withSuffixes (fun _ callee => ?_) first
  refine .bind (.choice ⟨?_, ?_, .typed .lexeme⟩) fun _ rest =>
    .pure (((callee.withField _).append rest).close _)
  · exact .sequence ⟨.lexeme, .field (.choice ⟨.lexeme, .lexeme⟩)⟩
  · exact .sequence ⟨.lexeme, .nonterminal, .lexeme⟩

theorem primary {mode : Mode} {count : Nat} : Reads last (Reader.primary mode count) := by
  induction count with
  | zero => exact .failure
  | succ count ih =>
    -- a new expression has a primary one as its callee
    have created : Reads last (do
        let start ← Reader.keyword "new"
        let callee ← Reader.constructed (Reader.primary mode count)
        let last : Reader Fragment := do
          Reader.goesOn mode
          Reader.sequence [Reader.optional Reader.callTypeArguments, Reader.argumentList]
        return (start ++ callee ++ (← Reader.optional last)).close (.other "new_expression")) :=
      .bind .lexeme fun _ start => .bind (.constructed ih) fun _ callee =>
        .bind (.optional (.bind (.goesOn mode) fun _ _ =>
          .sequence ⟨.optional .callTypeArguments, .argumentList⟩))
          fun _ stop => .pure (((start.append callee).append stop).close _)
    exact .bind .read fun _ _ => .choice
      ⟨.parenthesized, .array, .object, .template .nonterminal, .lexeme, .lexeme, .lexeme,
       .ite .nonterminal .failure, .lexeme, .sequence ⟨.lexeme, .lexeme, .lexeme⟩, created,
       .functionExpression, .classExpression,
       .other ⟨.lexeme, .optional (.sequence ⟨.lexeme, .lexeme⟩)⟩, .lexeme⟩

/-! ## Operators -/

theorem operandRule {mode : Mode} : Reads last (Reader.operandRule mode) :=
  .bind .read fun _ _ => .choice
    ⟨.other
      ⟨.choice
        ⟨.lexeme, .lexeme, .lexeme, .lexeme, .lexeme, .lexeme, .lexeme, .lexeme, .lexeme,
         .lexeme⟩,
       .nonterminal⟩,
     .ite (.other ⟨.typeArguments, .nonterminal⟩) .failure,
     .bind .get fun _ _ => .bind .primary fun _ first =>
      .bind (.withSuffixes (fun _ operand => .callSuffix operand) first) fun _ operand =>
        .orElse
          (.bind (.goesOn mode) fun _ _ => .bind .sameLine fun _ _ =>
            .bind (.choice ⟨.lexeme, .lexeme⟩) fun _ step =>
              .pure ((operand.append step).close _))
          (.pure operand)⟩

theorem chain {mode : Mode} : Reads last (Reader.chain mode) :=
  .bind .nonterminal fun _ first =>
    .bind
      (.many (.bind (.goesOn mode) fun _ _ =>
        .choice ⟨.typeTest, .sequence ⟨.binaryOperator, .nonterminal⟩⟩))
      fun _ rest => .ite (.pure first) (.pure ((first.append rest).close _))

theorem yieldExpression {mode : Mode} : Reads last (Reader.yieldExpression mode) :=
  have operand : Reads last (do
      Reader.goesOn mode
      Reader.ahead fun s => !(s.head?.all fun c =>
        c ∈ [')', ']', '\x7d', ',', ';', ':', '=', '.'])
      Script.nonterminal (.assignment mode)) :=
    .bind (.goesOn mode) fun _ _ => .bind .ahead fun _ _ => .nonterminal
  .other ⟨.lexeme, .choice ⟨.sequence ⟨.lexeme, operand⟩, .optional operand⟩⟩

theorem branches {mode : Mode} : Reads last (Reader.branches mode) :=
  have inBranch (first : Mode) : Reads last (.sequence
      [.markBefore "?" ['.', '?'] <|> .markBefore "?" ['?'],
       Script.nonterminal (.assignment first), .mark ":", Script.nonterminal (.assignment mode)]) :=
    .sequence ⟨.orElse .lexeme .lexeme, .nonterminal, .lexeme, .nonterminal⟩
  .choice ⟨inBranch {}, .typed (inBranch _)⟩

theorem assignmentRule {mode : Mode} : Reads last (Reader.assignmentRule mode) :=
  .choice
    ⟨.yieldExpression, .arrowFunction,
     .bind .chain fun _ left => .choice
      ⟨.bind (.goesOn mode) fun _ _ => .bind .lexeme fun _ operator =>
        .bind .nonterminal fun _ right => .pure (((left.append operator).append right).close _),
       .bind (.goesOn mode) fun _ _ => .bind .branches fun _ rest =>
        .pure ((left.append rest).close _),
       .pure left⟩⟩

theorem expressionRule {mode : Mode} : Reads last (Reader.expressionRule mode) :=
  .bind .nonterminal fun _ first =>
    .bind (.many (.sequence ⟨.lexeme, .nonterminal⟩)) fun _ rest =>
      .ite (.pure first) (.pure ((first.append rest).close _))

/-! ## Declarations -/

theorem blockRule : Reads last Reader.blockRule :=
  .other
    ⟨.openBrace, .many (.choice ⟨.nonterminal, .strayInside⟩), .closeBrace,
     .optional .impliedSemicolon⟩

theorem declarators {mode : Mode} : Reads last (Reader.declarators mode) :=
  .separated .lexeme (.other
    ⟨.field .nonterminal, .optional (.typed .lexeme), .optional (.typed .typeNote),
     .optional .initializerIn⟩)

theorem declaringWord : Reads last Reader.declaringWord :=
  .choice
    ⟨.lexeme, .lexeme, .guarded .lexeme,
     .bind (.sequence ⟨.optional .lexeme, .lexeme⟩) fun _ word => .bind .sameLine fun _ _ =>
      .bind .ahead fun _ _ => .pure word⟩

theorem variableDeclaration : Reads last Reader.variableDeclaration :=
  .bind .declaringWord fun _ word => .bind .declarators fun _ names =>
    .bind .semicolon fun _ stop => .pure (((word.append names).append stop).close _)

theorem functionDeclaration : Reads last Reader.functionDeclaration :=
  .bind (.sequence ⟨.optional (.onLine .lexeme), .lexeme⟩) fun _ start =>
    .bind (.optional .lexeme) fun _ star =>
      .bind (.sequence ⟨.field .lexeme, .signature⟩) fun _ rest =>
        have head := (start.append star).append rest
        .orElse
          (.bind (.sequence ⟨.nonterminal, .optional .impliedSemicolon⟩) fun _ body =>
            .pure ((head.append body).close _))
          (.typed (.bind .semicolon fun _ stop => .pure ((head.append stop).close _)))

theorem interfaceDeclaration : Reads last Reader.interfaceDeclaration :=
  .typed (.other
    ⟨.lexeme, .field .lexeme, .optional .typeParameters,
     .optional (.sequence ⟨.lexeme, .separated .lexeme .nonterminal⟩), .objectType⟩)

theorem typeAlias : Reads last Reader.typeAlias :=
  .typed (.other
    ⟨.lexeme, .field .lexeme, .optional .typeParameters, .lexeme, .nonterminal, .semicolon⟩)

theorem enumDeclaration : Reads last Reader.enumDeclaration :=
  .typed (.other
    ⟨.optional .lexeme, .lexeme, .field .lexeme,
     .other
      ⟨.openBrace, .commaList (.other ⟨.propertyName, .optional .initializerIn⟩), .closeBrace⟩⟩)

theorem namePath :
    Reads last (.sequence
      [.identifier, .many (.sequence [.mark ".", .anyWord .identifier])]) :=
  .sequence ⟨.lexeme, .many (.sequence ⟨.lexeme, .lexeme⟩)⟩

theorem namespaceDeclaration : Reads last Reader.namespaceDeclaration :=
  have bodyOrEnd : Reads last (.block <|> .semicolon Reader.memberSite) :=
    .orElse .nonterminal .semicolon
  .typed (.choice
    ⟨.other ⟨.lexeme, .namePath, bodyOrEnd⟩,
     .other ⟨.lexeme, .orElse .lexeme .namePath, bodyOrEnd⟩⟩)

theorem importAlias : Reads last Reader.importAlias :=
  .typed (.other
    ⟨.lexeme, .optional (.guarded .lexeme), .lexeme, .lexeme, .namePath, .semicolon⟩)

theorem plainDeclaration : Reads last Reader.plainDeclaration :=
  .choice
    ⟨.functionDeclaration, .classDeclaration, .abstractClassDeclaration, .interfaceDeclaration,
     .enumDeclaration, .typeAlias, .namespaceDeclaration, .importAlias, .variableDeclaration⟩

theorem ambientDeclaration : Reads last Reader.ambientDeclaration :=
  .typed (.other
    ⟨.onLine .lexeme,
     .choice
      ⟨.plainDeclaration, .sequence ⟨.lexeme, .nonterminal⟩,
       .sequence ⟨.lexeme, .lexeme, .lexeme, .lexeme, .nonterminal, .semicolon⟩⟩⟩)

theorem declaration : Reads last Reader.declaration :=
  .choice ⟨.plainDeclaration, .ambientDeclaration⟩

/-! ## Imports and exports -/

theorem source : Reads last Reader.source := .field .lexeme

theorem importAttributes : Reads last Reader.importAttributes :=
  .other ⟨.orElse .lexeme .lexeme, .object⟩

theorem fromSource : Reads last Reader.fromSource :=
  .sequence ⟨.lexeme, .source, .optional .importAttributes⟩

theorem moduleName : Reads last Reader.moduleName := .orElse .lexeme .lexeme

theorem specifier {kind : Kind} : Reads last (Reader.specifier kind) :=
  have renamed : Reads last (.sequence
      [.field .name .moduleName, .keyword "as", .field .alias .moduleName]) :=
    .sequence ⟨.field .moduleName, .lexeme, .field .moduleName⟩
  have plain : Reads last (.field .name .moduleName) := .field .moduleName
  have onlyType : Reads last (.typed (.keyword "type" <|> .keyword "typeof")) :=
    .typed (.orElse .lexeme .lexeme)
  .node (.choice
    ⟨.guarded renamed, .guarded plain, .guarded (.sequence ⟨onlyType, renamed⟩),
     .guarded (.sequence ⟨onlyType, plain⟩)⟩)

theorem importClause : Reads last Reader.importClause :=
  have whole : Reads last (.node .namespaceImport [.mark "*", .keyword "as", .identifier]) :=
    .node ⟨.lexeme, .lexeme, .lexeme⟩
  have named : Reads last (.node .namedImports
      [.openBrace, .commaList (.specifier .importSpecifier), .closeBrace]) :=
    .node ⟨.openBrace, .commaList .specifier, .closeBrace⟩
  .node (.choice
    ⟨whole, named,
     .sequence ⟨.lexeme, .optional (.sequence ⟨.lexeme, .orElse whole named⟩)⟩⟩)

theorem importStatement : Reads last Reader.importStatement :=
  .node
    ⟨.lexeme,
     .choice
      ⟨.sequence
        ⟨.optional (.guarded (.typed (.orElse .lexeme .lexeme))),
         .choice
          ⟨.sequence ⟨.importClause, .fromSource⟩,
           .typed (.other ⟨.lexeme, .lexeme, .lexeme, .lexeme, .source, .lexeme⟩)⟩⟩,
       .sequence ⟨.source, .optional .importAttributes⟩⟩,
     .semicolon⟩

theorem exportStatement : Reads last Reader.exportStatement :=
  .node
    ⟨.many .decorator, .lexeme,
     .choice
      ⟨.sequence
        ⟨.lexeme,
         .choice
          ⟨.functionDeclaration, .classDeclaration, .abstractClassDeclaration,
           .interfaceDeclaration, .sequence ⟨.field .nonterminal, .semicolon⟩⟩⟩,
       .typed (.sequence ⟨.lexeme, .nonterminal, .semicolon⟩),
       .typed (.sequence ⟨.lexeme, .lexeme, .lexeme, .semicolon⟩),
       .sequence
        ⟨.optional (.typed .lexeme),
         .choice
          ⟨.sequence ⟨.lexeme, .optional (.other ⟨.lexeme, .moduleName⟩)⟩,
           .other ⟨.openBrace, .commaList .specifier, .closeBrace⟩⟩,
         .optional .fromSource, .semicolon⟩,
       .declaration⟩⟩

/-! ## Statements -/

theorem condition : Reads last Reader.condition := .node ⟨.lexeme, .nonterminal, .lexeme⟩

theorem ifStatement : Reads last Reader.ifStatement :=
  .other
    ⟨.lexeme, .condition, .nonterminal, .optional (.other ⟨.lexeme, .nonterminal⟩)⟩

theorem forStatement : Reads last Reader.forStatement :=
  .other
    ⟨.lexeme, .optional .lexeme, .lexeme,
     .choice
      ⟨.sequence
        ⟨.sequence
          ⟨.choice
            ⟨.sequence
              ⟨.declaringWord, .nonterminal, .optional (.typed .typeNote),
               .optional .initializerIn⟩,
             .nonterminal⟩,
           .orElse .lexeme .lexeme, .nonterminal⟩,
         .lexeme⟩,
       .sequence
        ⟨.sequence
          ⟨.choice ⟨.sequence ⟨.declaringWord, .declarators⟩, .nonterminal, .nothing⟩,
           .lexeme, .optional .nonterminal, .lexeme, .optional .nonterminal⟩,
         .lexeme⟩⟩,
     .nonterminal⟩

theorem whileStatement : Reads last Reader.whileStatement :=
  .other ⟨.lexeme, .condition, .nonterminal⟩

theorem doStatement : Reads last Reader.doStatement :=
  .other ⟨.lexeme, .nonterminal, .lexeme, .condition, .optional .semicolon⟩

theorem switchStatement : Reads last Reader.switchStatement :=
  have inCase : Reads last (do
      Reader.ahead fun s => !beginsWithWord "case" s &&
        !(beginsWithWord "default" s && Reader.switchStatement.colonFollows s)
      Reader.choice [Reader.statement, Reader.strayInside]) :=
    .bind .ahead fun _ _ => .choice ⟨.nonterminal, .strayInside⟩
  .other
    ⟨.lexeme, .condition,
     .other
      ⟨.openBrace,
       .many (.choice
        ⟨.other ⟨.lexeme, .nonterminal, .lexeme, .many inCase⟩,
         .other ⟨.lexeme, .lexeme, .many inCase⟩⟩),
       .closeBrace⟩⟩

theorem tryStatement : Reads last Reader.tryStatement :=
  .other
    ⟨.lexeme, .nonterminal,
     .optional (.other
      ⟨.lexeme,
       .optional (.sequence
        ⟨.lexeme, .nonterminal, .optional (.typed .typeNote), .lexeme⟩),
       .nonterminal⟩),
     .optional (.other ⟨.lexeme, .nonterminal⟩)⟩

theorem jumpStatement : Reads last Reader.jumpStatement :=
  .other ⟨.orElse .lexeme .lexeme, .optional (.unlessImplied .lexeme), .semicolon⟩

theorem returnStatement : Reads last Reader.returnStatement :=
  .other ⟨.orElse .lexeme .lexeme, .optional (.unlessImplied .nonterminal), .semicolon⟩

theorem labeledStatement : Reads last Reader.labeledStatement :=
  .other ⟨.lexeme, .lexeme, .nonterminal⟩

theorem expressionStatement : Reads last Reader.expressionStatement :=
  .other ⟨.nonterminal, .semicolon⟩

theorem statementRule : Reads last Reader.statementRule :=
  .choice
    ⟨.nonterminal, .other .lexeme, .lexeme, .bind .ahead fun _ _ => .importStatement,
     .exportStatement, .declaration, .ifStatement, .forStatement, .whileStatement, .doStatement,
     .switchStatement, .tryStatement, .jumpStatement, .returnStatement,
     .other ⟨.lexeme, .semicolon⟩, .other ⟨.lexeme, .condition, .nonterminal⟩,
     .labeledStatement, .expressionStatement⟩

theorem statements : Reads last Reader.statements :=
  .sequence ⟨.optional .lexeme, .many (.choice ⟨.nonterminal, .stray⟩)⟩

/-- Every rule of the grammar reads within the last row. -/
theorem rule (n : Nonterminal) : Reads last (Reader.rule n) := by
  cases n with
  | statement => exact .statementRule
  | block => exact .blockRule
  | expression mode => exact .expressionRule
  | assignment mode => exact .assignmentRule
  | operand mode => exact .operandRule
  | type => exact .typeRule
  | typeOperand => exact .typeOperandRule
  | pattern => exact .patternRule
  | element => exact .elementRule

end Keeps

/-! ## Whole sources -/

/-- Rules nested to any depth read within the last row. -/
theorem derive_within (l : Language) (depth : Nat) :
    Env.Within last { language := l, derive := derive l depth } := by
  induction depth with
  | zero =>
    intro n cursor _ f after run
    cases run
  | succ depth ih => exact fun n cursor => (Keeps.rule n).run _ ih cursor

/-- No node of a tree begins behind the last line feed of its source. -/
theorem read_within (l : Language) (source : String) :
    (read l source).Within (source.toList.count '\n') := by
  have start : (Cursor.ofList source.toList).Within (source.toList.count '\n') := by
    show 0 + source.toList.count '\n' ≤ _
    exact Nat.le_of_eq (Nat.zero_add _)
  rw [read]
  split
  · exact .node (Nat.zero_le _) (List.forall_mem_nil _)
  · next body after run =>
    obtain ⟨within, stop⟩ := Keeps.statements.run _ (derive_within l _) _ start body after run
    refine .node (Nat.zero_le _) fun node member => ?_
    rw [List.mem_append, List.mem_append] at member
    -- comments in front, statements, and comments that are left behind them
    rcases member with (member | member) | member
    · exact within.lead node member
    · exact within.nodes node member
    · exact stop.toToken.1 node member

end ComponentAtlas.Script
