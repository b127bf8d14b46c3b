import UdsCatalog.Files.Path

/-! The two templates that the program brings along: declarations and definitions of generated code. -/

namespace UdsCatalog.Generation

/-- Lines of text, each with a line feed behind it. -/
def textOfLines (lines : List String) : String := String.join (lines.map fun line => line ++ "\n")

/-- The name of the template for declarations. -/
def headerName : String := "cpp/uds_def.h.template"

/-- The name of the template for definitions. -/
def sourceName : String := "cpp/uds_def.cpp.template"

/-- The template for declarations: the numbers of services and sub-functions, the classes of messages,
and the tables of services. -/
def headerTemplate : String :=
  textOfLines [
    "#ifndef UDS_DEF_H",
    "#define UDS_DEF_H",
    "",
    "#include <QMap>",
    "#include <QString>",
    "#include <QVector>",
    "",
    "namespace UdsDef \x7b",
    "\tenum class ServEnum \x7b",
    "\x7b%- for serv in services %\x7d",
    "\t\t\x7b\x7b serv.programmer_name \x7d\x7d = \x7b\x7b serv.hex_code_literal \x7d\x7d, // \x7b\x7b serv.short_name \x7d\x7d",
    "\x7b%- endfor %\x7d",
    "\t\x7d;",
    "",
    "\x7b% for serv in services %\x7d\x7b% if serv.has_sub_functions %\x7d",
    "\tenum class ServSub\x7b\x7b serv.capitalized_name \x7d\x7d \x7b",
    "\x7b%- for sub in serv.sub_functions %\x7d",
    "\x7b%- if sub.is_range %\x7d",
    "\t\t\x7b\x7b sub.programmer_name \x7d\x7dStart = \x7b\x7b sub.hex_start_literal \x7d\x7d, // \x7b\x7b sub.name \x7d\x7d",
    "\t\t\x7b\x7b sub.programmer_name \x7d\x7dEnd = \x7b\x7b sub.hex_end_literal \x7d\x7d, // \x7b\x7b sub.name \x7d\x7d",
    "\x7b%- else %\x7d",
    "\t\t\x7b\x7b sub.programmer_name \x7d\x7d = \x7b\x7b sub.hex_start_literal \x7d\x7d, // \x7b\x7b sub.name \x7d\x7d",
    "\x7b%- endif %\x7d",
    "\x7b%- endfor %\x7d",
    "\t\x7d;",
    "\x7b% endif %\x7d\x7b% endfor %\x7d",
    "\x7b%- for class in req_resp_classes %\x7d",
    "\tclass \x7b\x7b class.qualified_name \x7d\x7d \x7b",
    "\tpublic:",
    "\t\t\x7b\x7b class.qualified_name \x7d\x7d(const QVector<uint8_t> &packetRef);",
    "\x7b%- for item in class.items %\x7d",
    "\t\tbool exist\x7b\x7b item.capitalized_name \x7d\x7d(void) const;",
    "\x7b%- if item.is_standard_size %\x7d",
    "\t\t\x7b\x7b item.data_type \x7d\x7d get\x7b\x7b item.capitalized_name \x7d\x7d(void) const;",
    "\x7b%- else %\x7d",
    "\t\tvoid get\x7b\x7b item.capitalized_name \x7d\x7d(QVector<uint8_t> &outRef) const;",
    "\x7b%- endif %\x7d",
    "\x7b%- endfor %\x7d",
    "\x7b%- for item in class.items %\x7d",
    "\t\tconst uint8_t \x7b\x7b item.programmer_name \x7d\x7dPos = \x7b\x7b item.byte_index \x7d\x7d;",
    "\x7b%- endfor %\x7d",
    "\x7b%- for item in class.items %\x7d\x7b% if item.size_known %\x7d",
    "\t\tconst uint8_t \x7b\x7b item.programmer_name \x7d\x7dSize = \x7b\x7b item.size \x7d\x7d;",
    "\x7b%- endif %\x7d\x7b% endfor %\x7d",
    "\t\tconst QVector<uint8_t> packet;",
    "\t\x7d;",
    "\x7b% endfor %\x7d",
    "\tclass ServSub \x7b",
    "\tpublic:",
    "\t\tServSub(",
    "\t\t\tuint8_t id,",
    "\t\t\tconst QString &shortName,",
    "\t\t\tconst QString &detail",
    "\t\t);",
    "\t\tServSub(",
    "\t\t\tuint8_t idStart,",
    "\t\t\tuint8_t idEnd,",
    "\t\t\tconst QString &shortName,",
    "\t\t\tconst QString &detail",
    "\t\t);",
    "\t\tbool isThis(uint8_t id) const;",
    "\t\tconst uint8_t idStart;",
    "\t\tconst uint8_t idEnd;",
    "\t\tconst QString shortName;",
    "\t\tconst QString detail;",
    "\t\tconst bool isRange;",
    "\t\x7d;",
    "",
    "\tclass Serv \x7b",
    "\tpublic:",
    "\t\tServ(",
    "\t\t\tServEnum id,",
    "\t\t\tconst QString &shortName,",
    "\t\t\tconst QVector<const ServSub *> *sub",
    "\t\t);",
    "\t\tconst ServEnum id;",
    "\t\tconst QString shortName;",
    "\t\tconst QVector<const ServSub *> *sub;",
    "\t\x7d;",
    "",
    "\x7b% for serv in services %\x7d\x7b% if serv.has_sub_functions %\x7d",
    "\x7b%- for sub in serv.sub_functions %\x7d",
    "\textern const ServSub serv\x7b\x7b serv.capitalized_name \x7d\x7dSub\x7b\x7b sub.capitalized_name \x7d\x7d;",
    "\x7b%- endfor %\x7d",
    "\x7b% endif %\x7d\x7b% endfor %\x7d",
    "\x7b%- for serv in services %\x7d",
    "\textern const QVector<const ServSub *> serv\x7b\x7b serv.capitalized_name \x7d\x7dSub;",
    "\x7b%- endfor %\x7d",
    "",
    "\x7b% for serv in services %\x7d",
    "\textern const Serv serv\x7b\x7b serv.capitalized_name \x7d\x7d;",
    "\x7b%- endfor %\x7d",
    "",
    "\textern const QMap<ServEnum, const Serv *> serv;",
    "\x7d",
    "",
    "#endif // UDS_DEF_H"]

/-- The template for definitions: how fields are taken from messages, and the contents of the tables. -/
def sourceTemplate : String :=
  textOfLines [
    "#include \"uds_def.h\"",
    "",
    "namespace UdsDef \x7b",
    "\tServSub::ServSub(",
    "\t\tuint8_t id,",
    "\t\tconst QString &shortName,",
    "\t\tconst QString &detail",
    "\t) :",
    "\t\tidStart(id),",
    "\t\tidEnd(id),",
    "\t\tshortName(shortName),",
    "\t\tdetail(detail),",
    "\t\tisRange(false)",
    "\t\x7b",
    "\t\x7d",
    "",
    "\tServSub::ServSub(",
    "\t\tuint8_t idStart,",
    "\t\tuint8_t idEnd,",
    "\t\tconst QString &shortName,",
    "\t\tconst QString &detail",
    "\t) :",
    "\t\tidStart(idStart),",
    "\t\tidEnd(idEnd),",
    "\t\tshortName(shortName),",
    "\t\tdetail(detail),",
    "\t\tisRange(true)",
    "\t\x7b",
    "\t\x7d",
    "",
    "\tbool ServSub::isThis(uint8_t id) const",
    "\t\x7b",
    "\t\tif(id >= this->idStart && id <= this->idEnd) \x7b",
    "\t\t\treturn true;",
    "\t\t\x7d",
    "\t\treturn false;",
    "\t\x7d",
    "",
    "\tServ::Serv(",
    "\t\tServEnum id,",
    "\t\tconst QString &shortName,",
    "\t\tconst QVector<const ServSub *> *sub",
    "\t) :",
    "\t\tid(id),",
    "\t\tshortName(shortName),",
    "\t\tsub(sub)",
    "\t\x7b",
    "\t\x7d",
    "\x7b% for class in req_resp_classes %\x7d",
    "\t\x7b\x7b class.qualified_name \x7d\x7d::\x7b\x7b class.qualified_name \x7d\x7d(const QVector<uint8_t> &packetRef) :",
    "\t\tpacket(packetRef)",
    "\t\x7b",
    "\t\x7d",
    "\x7b% for item in class.items %\x7d",
    "\tbool \x7b\x7b class.qualified_name \x7d\x7d::exist\x7b\x7b item.capitalized_name \x7d\x7d(void) const",
    "\t\x7b",
    "\x7b%- if item.size_known %\x7d",
    "\t\treturn packet.length() >= (\x7b\x7b item.programmer_name \x7d\x7dPos + \x7b\x7b item.programmer_name \x7d\x7dSize);",
    "\x7b%- else %\x7d",
    "\t\treturn packet.length() > \x7b\x7b item.programmer_name \x7d\x7dPos;",
    "\x7b%- endif %\x7d",
    "\t\x7d",
    "\x7b% if item.is_byte %\x7d",
    "\tuint8_t \x7b\x7b class.qualified_name \x7d\x7d::get\x7b\x7b item.capitalized_name \x7d\x7d(void) const",
    "\t\x7b",
    "\t\treturn packet[\x7b\x7b item.programmer_name \x7d\x7dPos];",
    "\t\x7d",
    "\x7b% elif item.is_standard_size %\x7d",
    "\t\x7b\x7b item.data_type \x7d\x7d \x7b\x7b class.qualified_name \x7d\x7d::get\x7b\x7b item.capitalized_name \x7d\x7d(void) const",
    "\t\x7b",
    "\t\t\x7b\x7b item.data_type \x7d\x7d ret = 0;",
    "\t\tfor(int i = 0; i < \x7b\x7b item.programmer_name \x7d\x7dSize; ++i) \x7b",
    "\t\t\t((uint8_t *)&ret)[i] = packet[\x7b\x7b item.programmer_name \x7d\x7dPos + i];",
    "\t\t\x7d",
    "\t\treturn ret;",
    "\t\x7d",
    "\x7b% elif item.size_known %\x7d",
    "\tvoid \x7b\x7b class.qualified_name \x7d\x7d::get\x7b\x7b item.capitalized_name \x7d\x7d(QVector<uint8_t> &outRef) const",
    "\t\x7b",
    "\t\toutRef.clear();",
    "\t\tfor(int i = 0; i < \x7b\x7b item.programmer_name \x7d\x7dSize; ++i) \x7b",
    "\t\t\toutRef.append(packet[\x7b\x7b item.programmer_name \x7d\x7dPos + i]);",
    "\t\t\x7d",
    "\t\x7d",
    "\x7b% else %\x7d",
    "\tvoid \x7b\x7b class.qualified_name \x7d\x7d::get\x7b\x7b item.capitalized_name \x7d\x7d(QVector<uint8_t> &outRef) const",
    "\t\x7b",
    "\t\toutRef.clear();",
    "\t\tint outSize = packet.length() - \x7b\x7b item.programmer_name \x7d\x7dPos;",
    "\t\tfor(int i = 0; i < outSize; ++i) \x7b",
    "\t\t\toutRef.append(packet[\x7b\x7b item.programmer_name \x7d\x7dPos + i]);",
    "\t\t\x7d",
    "\t\x7d",
    "\x7b% endif %\x7d\x7b% endfor %\x7d\x7b% endfor %\x7d",
    "\x7b% for serv in services %\x7d\x7b% for sub in serv.sub_functions %\x7d",
    "\tconst ServSub serv\x7b\x7b serv.capitalized_name \x7d\x7dSub\x7b\x7b sub.capitalized_name \x7d\x7d (",
    "\x7b%- if sub.is_range %\x7d",
    "\t\tstatic_cast<uint8_t>(ServSub\x7b\x7b serv.capitalized_name \x7d\x7d::\x7b\x7b sub.programmer_name \x7d\x7dStart), // \x7b\x7b sub.name \x7d\x7d",
    "\t\tstatic_cast<uint8_t>(ServSub\x7b\x7b serv.capitalized_name \x7d\x7d::\x7b\x7b sub.programmer_name \x7d\x7dEnd), // \x7b\x7b sub.name \x7d\x7d",
    "\x7b%- else %\x7d",
    "\t\tstatic_cast<uint8_t>(ServSub\x7b\x7b serv.capitalized_name \x7d\x7d::\x7b\x7b sub.programmer_name \x7d\x7d), // \x7b\x7b sub.name \x7d\x7d",
    "\x7b%- endif %\x7d",
    "\t\t\"\x7b\x7b sub.name \x7d\x7d\",",
    "\t\t\"\x7b\x7b sub.detail \x7d\x7d\"",
    "\t);",
    "\x7b%- endfor %\x7d",
    "\x7b% endfor %\x7d",
    "\x7b%- for serv in services %\x7d",
    "\tconst QVector<const ServSub *> serv\x7b\x7b serv.capitalized_name \x7d\x7dSub = \x7b",
    "\x7b%- for sub in serv.sub_functions %\x7d",
    "\t\t&serv\x7b\x7b serv.capitalized_name \x7d\x7dSub\x7b\x7b sub.capitalized_name \x7d\x7d,",
    "\x7b%- endfor %\x7d",
    "\t\x7d;",
    "\x7b% endfor %\x7d",
    "\x7b%- for serv in services %\x7d",
    "\tconst Serv serv\x7b\x7b serv.capitalized_name \x7d\x7d(ServEnum::\x7b\x7b serv.programmer_name \x7d\x7d, \"\x7b\x7b serv.short_name \x7d\x7d\", &serv\x7b\x7b serv.capitalized_name \x7d\x7dSub);",
    "\x7b%- endfor %\x7d",
    "",
    "\tconst QMap<ServEnum, const Serv *> serv = \x7b",
    "\x7b%- for serv in services %\x7d",
    "\t\t\x7bServEnum::\x7b\x7b serv.programmer_name \x7d\x7d, &serv\x7b\x7b serv.capitalized_name \x7d\x7d\x7d,",
    "\x7b%- endfor %\x7d",
    "\t\x7d;",
    "\x7d"]

/-- The built-in template under a name. -/
def builtInTemplate? (name : Files.Path) : Option String :=
  -- Names are paths here, so a separator that is written twice makes no difference.
  if Files.Path.agrees ⟨headerName⟩ name then some headerTemplate
  else if Files.Path.agrees ⟨sourceName⟩ name then some sourceTemplate
  else none

end UdsCatalog.Generation
