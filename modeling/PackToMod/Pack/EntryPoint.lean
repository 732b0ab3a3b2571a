import PackToMod.Text.Split

/-!
# The entry point of a mod

The source file with the class that the game loads. Besides the members of the build it registers
the command that runs compiled functions, and holds the code that the generated methods rely on.
-/

namespace PackToMod.EntryPoint

/-- What the file imports, with the blank lines around it. -/
def imports : List String :=
  ["",
    "import com.mojang.brigadier.CommandDispatcher;",
    "import com.mojang.brigadier.arguments.StringArgumentType;",
    "import com.mojang.brigadier.exceptions.CommandSyntaxException;",
    "import com.mojang.datafixers.util.Pair;",
    "import net.fabricmc.api.ModInitializer;",
    "import net.fabricmc.fabric.api.command.v2.CommandRegistrationCallback;",
    "import net.minecraft.advancements.critereon.*;",
    "import net.minecraft.commands.*;",
    "import net.minecraft.commands.arguments.*;",
    "import net.minecraft.commands.arguments.selector.EntitySelector;",
    "import net.minecraft.core.*;",
    "import net.minecraft.core.component.*;",
    "import net.minecraft.core.registries.*;",
    "import net.minecraft.nbt.*;",
    "import net.minecraft.network.chat.*;",
    "import net.minecraft.resources.*;",
    "import net.minecraft.server.RegistryLayer;",
    "import net.minecraft.server.commands.data.*;",
    "import net.minecraft.server.level.ServerPlayer;",
    "import net.minecraft.server.players.PlayerList;",
    "import net.minecraft.tags.TagKey;",
    "import net.minecraft.world.entity.*;",
    "import net.minecraft.world.item.ItemStack;",
    "import net.minecraft.world.level.GameType;",
    "import net.minecraft.world.level.levelgen.Heightmap;",
    "import net.minecraft.world.level.levelgen.structure.BoundingBox;",
    "import net.minecraft.world.phys.*;",
    "import org.slf4j.*;",
    "",
    "import java.util.*;",
    "import java.util.function.*;",
    "import java.util.stream.Collectors;",
    ""]

/-- The head of the class: the compiled functions, the name of the mod, and the members of the
build. -/
def head (id compiled members : String) : List String :=
  ["public class EntryPoint implements ModInitializer \x7b",
    "    public static List<String> COMPILED = List.of(",
    "        " ++ compiled ++ "    ",
    "    );",
    "    ",
    "    public static String MODID = \"" ++ id ++ "\";",
    "    public static final Logger LOGGER = LoggerFactory.getLogger(MODID);",
    "",
    "\t" ++ members,
    ""]

/-- Registers the command that runs a compiled function. -/
def registration (id : String) : List String :=
  ["    @Override",
    "    public void onInitialize() \x7b",
    "        LOGGER.info(\"Initilizing " ++ id ++ "\");",
    "        CommandRegistrationCallback.EVENT.register((dispatcher, "
      ++ "registryAccess, environment) -> \x7b",
    "            dispatcher.register(Commands.literal(\"_function__" ++ id ++ "\")",
    "                    .requires(ctx -> ctx.hasPermission(2))",
    "                    .then(Commands.argument(\"id\", "
      ++ "StringArgumentType.word()).then(Commands.argument(\"macros\", "
      ++ "CompoundTagArgument.compoundTag()).executes(",
    "                            ctx -> function(ctx.getSource(), "
      ++ "StringArgumentType.getString(ctx, \"id\"), "
      ++ "CompoundTagArgument.getCompoundTag(ctx, \"macros\"), dispatcher)",
    "                    ))));",
    "        \x7d);",
    "    \x7d",
    "    "]

/-- The orders in which entities can be sorted. -/
def sorting : List String :=
  ["    private enum Sort implements BiConsumer<Vec3, List<? extends Entity>> \x7b",
    "        NEAREST(\"nearest\", (pos, pair) -> "
      ++ "pair.getFirst().position().distanceToSqr(pos) > "
      ++ "pair.getSecond().position().distanceToSqr(pos)),",
    "        FURTHEST(\"furthest\", (pos, pair) -> "
      ++ "pair.getFirst().position().distanceToSqr(pos) < "
      ++ "pair.getSecond().position().distanceToSqr(pos)),",
    "        ARBITRARY(\"arbitrary\", (pos, pair) -> false),",
    "        RANDOM(\"random\", null);",
    "        ",
    "        final String id;",
    "        final BiPredicate<Vec3, Pair<Entity, Entity>> predicate;",
    "        ",
    "        Sort(String id, BiPredicate<Vec3, Pair<Entity, Entity>> predicate) \x7b",
    "            this.id = id;",
    "            this.predicate = predicate;",
    "        \x7d",
    "    ",
    "        @Override",
    "        public void accept(Vec3 vec3, List<? extends Entity> entities) \x7b",
    "            if (predicate == null) \x7b",
    "                Collections.shuffle(entities);",
    "                return;",
    "            \x7d",
    "            ",
    "            List<Entity> modifiableEntities = new ArrayList<>(entities);",
    "            while (true) \x7b",
    "                boolean okay = true;",
    "                Entity last = null;",
    "                int i = 0;",
    "                for (Entity entity : modifiableEntities) \x7b",
    "                    if (last != null && predicate.test(vec3, "
      ++ "Pair.of(last, entity))) \x7b",
    "                        modifiableEntities.set(i, last);",
    "                        modifiableEntities.set(i - 1, entity);",
    "                        if (okay) okay = false;",
    "                    \x7d",
    "                    last = entity;",
    "                    i++;",
    "                \x7d",
    "                if (okay) \x7b",
    "                    for (int j = 0; j < entities.size(); j++) \x7b",
    "                        ((List<Entity>) entities).set(j, modifiableEntities.get(j));",
    "                    \x7d",
    "                    return;",
    "                \x7d",
    "            \x7d",
    "        \x7d",
    "    \x7d",
    ""]

/-- Matching of tags, vectors, and the value of a command that may return. -/
def support : List String :=
  ["    private static boolean nbtMatches(CompoundTag original, CompoundTag with) \x7b",
    "        for (key in original.getAllKeys()) \x7b",
    "            if (!with.contains(key)) continue;",
    "            TagType<? extends Tag> o = original.get(key).getType();",
    "            TagType<? extends Tag> w = with.get(key).getType();",
    "            if (o != w) return false;",
    "            var item = original.get(key);",
    "            if (item instanceof CollectionTag<? extends Tag>) \x7b",
    "                if (!nbtMatches(item, ((CollectionTag<? extends Tag>)with.get(key))))",
    "                    return false;",
    "            \x7d else if (o == CompoundTag.TYPE) \x7b",
    "                if (!nbtMatches(original.getCompound(key), with.getCompound(key)))",
    "                    return false;",
    "            \x7d else \x7b",
    "                if (!original.get(key).equals(with.get(key)))",
    "                    return false;",
    "            \x7d",
    "        \x7d",
    "        return true;",
    "    \x7d",
    "    private static boolean nbtMatches(CollectionTag<?> original, "
      ++ "CollectionTag<?> with) \x7b",
    "        int i = 0;",
    "        for (tag in with) \x7b",
    "            if (!original.contains(tag)) return false; //TODO: confirm",
    "            i++;",
    "        \x7d",
    "        return true;",
    "    \x7d",
    "",
    "    private static Vec2 rotationFromDirection(Vec3 vec) \x7b",
    "        float pitch = (float) Math.asin(vec.y);",
    "        float h = (float) Math.sqrt(vec.x * vec.x + vec.z * vec.z);",
    "",
    "        float yaw = (float) -Math.atan2(vec.x, vec.z) - (float) Math.PI;",
    "",
    "        return new Vec2(pitch * (180F / (float) Math.PI), yaw * (180F "
      ++ "/ (float) Math.PI));",
    "    \x7d",
    "",
    "    private static Vec3i toVec3i(Vec3 vec3) \x7b",
    "        return new Vec3i((int) vec3.x(), (int) vec3.y(), (int) vec3.z());",
    "    \x7d",
    "",
    "    private static CompoundTag returnIfMatches(Tag value, CompoundTag with) \x7b",
    "        if (value instanceof CompoundTag)",
    "            return nbtMatches(value, with) ? value : new CompoundTag();",
    "        return new CompoundTag();",
    "    \x7d",
    "",
    "    private record MaybeReturn(boolean maybe, int value) \x7b",
    "        Object out() \x7b",
    "            if (maybe)",
    "                return (Integer) value;",
    "            return null;",
    "        \x7d",
    "    \x7d",
    "    ",
    "    class Termination extends Exception \x7b \x7d",
    "    "]

/-- Runs the compiled function with a given name. -/
def functionSwitch (cases : String) : List String :=
  ["    private static int function(CommandSourceStack source, String id, "
      ++ "CompoundTag marcos, CommandDispatcher<CommandSourceStack> dispatcher) "
      ++ "throws CommandSyntaxException \x7b",
    "\t\tswitch (id) \x7b",
    "\t\t\t" ++ cases,
    "\t\t\tdefault:",
    "\t\t\t\tsource.sendFailure(Component.literal(\"unable to find: \" + id));",
    "                return -1;",
    "\t\t\x7d",
    "\t\x7d",
    "\x7d",
    ""]

/-- One compiled function as a case of the switch. -/
def functionCase (name body : String) : String :=
  "\n    case \"" ++ name ++ "\":\n        " ++ body ++ "\n        return 0;\n"

/-- The text of the file. -/
def text (id compiled members cases : String) : String :=
  Text.unlines (["", "package datapack." ++ id ++ ";"] ++ imports ++ head id compiled members
    ++ registration id ++ sorting ++ support ++ functionSwitch cases)

end PackToMod.EntryPoint
