/-!
# Names of pictures from F on

Names of pictures that begin with the letter F.

* `namesFromF` – the names, each with the code points of its picture.
-/

namespace StackManifest.Console.Emoji

/-- **Names** of pictures: several in a line, each with the code points of its picture. -/
def namesFromF : List String :=
  [
    "face_blowing_a_kiss=1F618 face_savoring_food=1F60B face_screaming_in_fear=1F631",
    "face_vomiting=1F92E face_with_hand_over_mouth=1F92D face_with_head-bandage=1F915",
    "face_with_head__bandage=1F915 face_with_medical_mask=1F637 face_with_monocle=1F9D0",
    "face_with_open_mouth=1F62E face_with_raised_eyebrow=1F928 face_with_rolling_eyes=1F644",
    "face_with_steam_from_nose=1F624 face_with_symbols_on_mouth=1F92C",
    "face_with_tears_of_joy=1F602 face_with_thermometer=1F912 face_with_tongue=1F61B",
    "face_without_mouth=1F636 facepunch=1F44A factory=1F3ED fairy=1F9DA",
    "fairy_dark_skin_tone=1F9DA.1F3FF fairy_light_skin_tone=1F9DA.1F3FB",
    "fairy_medium-dark_skin_tone=1F9DA.1F3FE fairy_medium-light_skin_tone=1F9DA.1F3FC",
    "fairy_medium_skin_tone=1F9DA.1F3FD falafel=1F9C6 falkland_islands=1F1EB.1F1F0",
    "fallen_leaf=1F342 family=1F46A family_man_boy=1F468.200D.1F466",
    "family_man_boy_boy=1F468.200D.1F466.200D.1F466 family_man_girl=1F468.200D.1F467",
    "family_man_girl_boy=1F468.200D.1F467.200D.1F466",
    "family_man_girl_girl=1F468.200D.1F467.200D.1F467",
    "family_man_man_boy=1F468.200D.1F468.200D.1F466",
    "family_man_man_boy_boy=1F468.200D.1F468.200D.1F466.200D.1F466",
    "family_man_man_girl=1F468.200D.1F468.200D.1F467",
    "family_man_man_girl_boy=1F468.200D.1F468.200D.1F467.200D.1F466",
    "family_man_man_girl_girl=1F468.200D.1F468.200D.1F467.200D.1F467",
    "family_man_woman_boy=1F468.200D.1F469.200D.1F466",
    "family_man_woman_boy_boy=1F468.200D.1F469.200D.1F466.200D.1F466",
    "family_man_woman_girl=1F468.200D.1F469.200D.1F467",
    "family_man_woman_girl_boy=1F468.200D.1F469.200D.1F467.200D.1F466",
    "family_man_woman_girl_girl=1F468.200D.1F469.200D.1F467.200D.1F467",
    "family_woman_boy=1F469.200D.1F466 family_woman_boy_boy=1F469.200D.1F466.200D.1F466",
    "family_woman_girl=1F469.200D.1F467 family_woman_girl_boy=1F469.200D.1F467.200D.1F466",
    "family_woman_girl_girl=1F469.200D.1F467.200D.1F467",
    "family_woman_woman_boy=1F469.200D.1F469.200D.1F466",
    "family_woman_woman_boy_boy=1F469.200D.1F469.200D.1F466.200D.1F466",
    "family_woman_woman_girl=1F469.200D.1F469.200D.1F467",
    "family_woman_woman_girl_boy=1F469.200D.1F469.200D.1F467.200D.1F466",
    "family_woman_woman_girl_girl=1F469.200D.1F469.200D.1F467.200D.1F467",
    "faroe_islands=1F1EB.1F1F4 fast-forward_button=23E9 fast_down_button=23EC fast_forward=23E9",
    "fast_reverse_button=23EA fast_up_button=23EB fax=1F4E0 fax_machine=1F4E0 fearful=1F628",
    "fearful_face=1F628 feet=1F43E female_sign=2640 ferris_wheel=1F3A1 ferry=26F4",
    "field_hockey=1F3D1 field_hockey_stick_and_ball=1F3D1 fiji=1F1EB.1F1EF file_cabinet=1F5C4",
    "file_folder=1F4C1 film_frames=1F39E film_projector=1F4FD finland=1F1EB.1F1EE fire=1F525",
    "fire_engine=1F692 fire_extinguisher=1F9EF firecracker=1F9E8 fireworks=1F386",
    "first_quarter_moon=1F313 first_quarter_moon_face=1F31B first_quarter_moon_with_face=1F31B",
    "fish=1F41F fish_cake=1F365 fish_cake_with_swirl=1F365 fishing_pole=1F3A3",
    "fishing_pole_and_fish=1F3A3 fist=270A five=35.FE0F.20E3 five-thirty=1F560 five_o’clock=1F554",
    "flag_for_afghanistan=1F1E6.1F1EB flag_for_albania=1F1E6.1F1F1 flag_for_algeria=1F1E9.1F1FF",
    "flag_for_american_samoa=1F1E6.1F1F8 flag_for_andorra=1F1E6.1F1E9 flag_for_angola=1F1E6.1F1F4",
    "flag_for_anguilla=1F1E6.1F1EE flag_for_antarctica=1F1E6.1F1F6",
    "flag_for_antigua_&_barbuda=1F1E6.1F1EC flag_for_argentina=1F1E6.1F1F7",
    "flag_for_armenia=1F1E6.1F1F2 flag_for_aruba=1F1E6.1F1FC",
    "flag_for_ascension_island=1F1E6.1F1E8 flag_for_australia=1F1E6.1F1FA",
    "flag_for_austria=1F1E6.1F1F9 flag_for_azerbaijan=1F1E6.1F1FF flag_for_bahamas=1F1E7.1F1F8",
    "flag_for_bahrain=1F1E7.1F1ED flag_for_bangladesh=1F1E7.1F1E9 flag_for_barbados=1F1E7.1F1E7",
    "flag_for_belarus=1F1E7.1F1FE flag_for_belgium=1F1E7.1F1EA flag_for_belize=1F1E7.1F1FF",
    "flag_for_benin=1F1E7.1F1EF flag_for_bermuda=1F1E7.1F1F2 flag_for_bhutan=1F1E7.1F1F9",
    "flag_for_bolivia=1F1E7.1F1F4 flag_for_bosnia_&_herzegovina=1F1E7.1F1E6",
    "flag_for_botswana=1F1E7.1F1FC flag_for_bouvet_island=1F1E7.1F1FB flag_for_brazil=1F1E7.1F1F7",
    "flag_for_british_indian_ocean_territory=1F1EE.1F1F4",
    "flag_for_british_virgin_islands=1F1FB.1F1EC flag_for_brunei=1F1E7.1F1F3",
    "flag_for_bulgaria=1F1E7.1F1EC flag_for_burkina_faso=1F1E7.1F1EB flag_for_burundi=1F1E7.1F1EE",
    "flag_for_cambodia=1F1F0.1F1ED flag_for_cameroon=1F1E8.1F1F2 flag_for_canada=1F1E8.1F1E6",
    "flag_for_canary_islands=1F1EE.1F1E8 flag_for_cape_verde=1F1E8.1F1FB",
    "flag_for_caribbean_netherlands=1F1E7.1F1F6 flag_for_cayman_islands=1F1F0.1F1FE",
    "flag_for_central_african_republic=1F1E8.1F1EB flag_for_ceuta_&_melilla=1F1EA.1F1E6",
    "flag_for_chad=1F1F9.1F1E9 flag_for_chile=1F1E8.1F1F1 flag_for_china=1F1E8.1F1F3",
    "flag_for_christmas_island=1F1E8.1F1FD flag_for_clipperton_island=1F1E8.1F1F5",
    "flag_for_cocos__islands=1F1E8.1F1E8 flag_for_colombia=1F1E8.1F1F4",
    "flag_for_comoros=1F1F0.1F1F2 flag_for_congo____brazzaville=1F1E8.1F1EC",
    "flag_for_congo____kinshasa=1F1E8.1F1E9 flag_for_cook_islands=1F1E8.1F1F0",
    "flag_for_costa_rica=1F1E8.1F1F7 flag_for_croatia=1F1ED.1F1F7 flag_for_cuba=1F1E8.1F1FA",
    "flag_for_curaçao=1F1E8.1F1FC flag_for_cyprus=1F1E8.1F1FE flag_for_czech_republic=1F1E8.1F1FF",
    "flag_for_côte_d’ivoire=1F1E8.1F1EE flag_for_denmark=1F1E9.1F1F0",
    "flag_for_diego_garcia=1F1E9.1F1EC flag_for_djibouti=1F1E9.1F1EF",
    "flag_for_dominica=1F1E9.1F1F2 flag_for_dominican_republic=1F1E9.1F1F4",
    "flag_for_ecuador=1F1EA.1F1E8 flag_for_egypt=1F1EA.1F1EC flag_for_el_salvador=1F1F8.1F1FB",
    "flag_for_equatorial_guinea=1F1EC.1F1F6 flag_for_eritrea=1F1EA.1F1F7",
    "flag_for_estonia=1F1EA.1F1EA flag_for_ethiopia=1F1EA.1F1F9",
    "flag_for_european_union=1F1EA.1F1FA flag_for_falkland_islands=1F1EB.1F1F0",
    "flag_for_faroe_islands=1F1EB.1F1F4 flag_for_fiji=1F1EB.1F1EF flag_for_finland=1F1EB.1F1EE",
    "flag_for_france=1F1EB.1F1F7 flag_for_french_guiana=1F1EC.1F1EB",
    "flag_for_french_polynesia=1F1F5.1F1EB flag_for_french_southern_territories=1F1F9.1F1EB",
    "flag_for_gabon=1F1EC.1F1E6 flag_for_gambia=1F1EC.1F1F2 flag_for_georgia=1F1EC.1F1EA",
    "flag_for_germany=1F1E9.1F1EA flag_for_ghana=1F1EC.1F1ED flag_for_gibraltar=1F1EC.1F1EE",
    "flag_for_greece=1F1EC.1F1F7 flag_for_greenland=1F1EC.1F1F1 flag_for_grenada=1F1EC.1F1E9",
    "flag_for_guadeloupe=1F1EC.1F1F5 flag_for_guam=1F1EC.1F1FA flag_for_guatemala=1F1EC.1F1F9",
    "flag_for_guernsey=1F1EC.1F1EC flag_for_guinea=1F1EC.1F1F3",
    "flag_for_guinea__bissau=1F1EC.1F1FC flag_for_guyana=1F1EC.1F1FE flag_for_haiti=1F1ED.1F1F9",
    "flag_for_heard_&_mcdonald_islands=1F1ED.1F1F2 flag_for_honduras=1F1ED.1F1F3",
    "flag_for_hong_kong=1F1ED.1F1F0 flag_for_hungary=1F1ED.1F1FA flag_for_iceland=1F1EE.1F1F8",
    "flag_for_india=1F1EE.1F1F3 flag_for_indonesia=1F1EE.1F1E9 flag_for_iran=1F1EE.1F1F7",
    "flag_for_iraq=1F1EE.1F1F6 flag_for_ireland=1F1EE.1F1EA flag_for_isle_of_man=1F1EE.1F1F2",
    "flag_for_israel=1F1EE.1F1F1 flag_for_italy=1F1EE.1F1F9 flag_for_jamaica=1F1EF.1F1F2",
    "flag_for_japan=1F1EF.1F1F5 flag_for_jersey=1F1EF.1F1EA flag_for_jordan=1F1EF.1F1F4",
    "flag_for_kazakhstan=1F1F0.1F1FF flag_for_kenya=1F1F0.1F1EA flag_for_kiribati=1F1F0.1F1EE",
    "flag_for_kosovo=1F1FD.1F1F0 flag_for_kuwait=1F1F0.1F1FC flag_for_kyrgyzstan=1F1F0.1F1EC",
    "flag_for_laos=1F1F1.1F1E6 flag_for_latvia=1F1F1.1F1FB flag_for_lebanon=1F1F1.1F1E7",
    "flag_for_lesotho=1F1F1.1F1F8 flag_for_liberia=1F1F1.1F1F7 flag_for_libya=1F1F1.1F1FE",
    "flag_for_liechtenstein=1F1F1.1F1EE flag_for_lithuania=1F1F1.1F1F9",
    "flag_for_luxembourg=1F1F1.1F1FA flag_for_macau=1F1F2.1F1F4 flag_for_macedonia=1F1F2.1F1F0",
    "flag_for_madagascar=1F1F2.1F1EC flag_for_malawi=1F1F2.1F1FC flag_for_malaysia=1F1F2.1F1FE",
    "flag_for_maldives=1F1F2.1F1FB flag_for_mali=1F1F2.1F1F1 flag_for_malta=1F1F2.1F1F9",
    "flag_for_marshall_islands=1F1F2.1F1ED flag_for_martinique=1F1F2.1F1F6",
    "flag_for_mauritania=1F1F2.1F1F7 flag_for_mauritius=1F1F2.1F1FA flag_for_mayotte=1F1FE.1F1F9",
    "flag_for_mexico=1F1F2.1F1FD flag_for_micronesia=1F1EB.1F1F2 flag_for_moldova=1F1F2.1F1E9",
    "flag_for_monaco=1F1F2.1F1E8 flag_for_mongolia=1F1F2.1F1F3 flag_for_montenegro=1F1F2.1F1EA",
    "flag_for_montserrat=1F1F2.1F1F8 flag_for_morocco=1F1F2.1F1E6 flag_for_mozambique=1F1F2.1F1FF",
    "flag_for_myanmar=1F1F2.1F1F2 flag_for_namibia=1F1F3.1F1E6 flag_for_nauru=1F1F3.1F1F7",
    "flag_for_nepal=1F1F3.1F1F5 flag_for_netherlands=1F1F3.1F1F1",
    "flag_for_new_caledonia=1F1F3.1F1E8 flag_for_new_zealand=1F1F3.1F1FF",
    "flag_for_nicaragua=1F1F3.1F1EE flag_for_niger=1F1F3.1F1EA flag_for_nigeria=1F1F3.1F1EC",
    "flag_for_niue=1F1F3.1F1FA flag_for_norfolk_island=1F1F3.1F1EB",
    "flag_for_north_korea=1F1F0.1F1F5 flag_for_northern_mariana_islands=1F1F2.1F1F5",
    "flag_for_norway=1F1F3.1F1F4 flag_for_oman=1F1F4.1F1F2 flag_for_pakistan=1F1F5.1F1F0",
    "flag_for_palau=1F1F5.1F1FC flag_for_palestinian_territories=1F1F5.1F1F8",
    "flag_for_panama=1F1F5.1F1E6 flag_for_papua_new_guinea=1F1F5.1F1EC",
    "flag_for_paraguay=1F1F5.1F1FE flag_for_peru=1F1F5.1F1EA flag_for_philippines=1F1F5.1F1ED",
    "flag_for_pitcairn_islands=1F1F5.1F1F3 flag_for_poland=1F1F5.1F1F1",
    "flag_for_portugal=1F1F5.1F1F9 flag_for_puerto_rico=1F1F5.1F1F7 flag_for_qatar=1F1F6.1F1E6",
    "flag_for_romania=1F1F7.1F1F4 flag_for_russia=1F1F7.1F1FA flag_for_rwanda=1F1F7.1F1FC",
    "flag_for_réunion=1F1F7.1F1EA flag_for_samoa=1F1FC.1F1F8 flag_for_san_marino=1F1F8.1F1F2",
    "flag_for_saudi_arabia=1F1F8.1F1E6 flag_for_senegal=1F1F8.1F1F3 flag_for_serbia=1F1F7.1F1F8",
    "flag_for_seychelles=1F1F8.1F1E8 flag_for_sierra_leone=1F1F8.1F1F1",
    "flag_for_singapore=1F1F8.1F1EC flag_for_sint_maarten=1F1F8.1F1FD",
    "flag_for_slovakia=1F1F8.1F1F0 flag_for_slovenia=1F1F8.1F1EE",
    "flag_for_solomon_islands=1F1F8.1F1E7 flag_for_somalia=1F1F8.1F1F4",
    "flag_for_south_africa=1F1FF.1F1E6",
    "flag_for_south_georgia_&_south_sandwich_islands=1F1EC.1F1F8 flag_for_south_korea=1F1F0.1F1F7",
    "flag_for_south_sudan=1F1F8.1F1F8 flag_for_spain=1F1EA.1F1F8 flag_for_sri_lanka=1F1F1.1F1F0",
    "flag_for_st._barthélemy=1F1E7.1F1F1 flag_for_st._helena=1F1F8.1F1ED",
    "flag_for_st._kitts_&_nevis=1F1F0.1F1F3 flag_for_st._lucia=1F1F1.1F1E8",
    "flag_for_st._martin=1F1F2.1F1EB flag_for_st._pierre_&_miquelon=1F1F5.1F1F2",
    "flag_for_st._vincent_&_grenadines=1F1FB.1F1E8 flag_for_sudan=1F1F8.1F1E9",
    "flag_for_suriname=1F1F8.1F1F7 flag_for_svalbard_&_jan_mayen=1F1F8.1F1EF",
    "flag_for_swaziland=1F1F8.1F1FF flag_for_sweden=1F1F8.1F1EA flag_for_switzerland=1F1E8.1F1ED",
    "flag_for_syria=1F1F8.1F1FE flag_for_são_tomé_&_príncipe=1F1F8.1F1F9",
    "flag_for_taiwan=1F1F9.1F1FC flag_for_tajikistan=1F1F9.1F1EF flag_for_tanzania=1F1F9.1F1FF",
    "flag_for_thailand=1F1F9.1F1ED flag_for_timor__leste=1F1F9.1F1F1 flag_for_togo=1F1F9.1F1EC",
    "flag_for_tokelau=1F1F9.1F1F0 flag_for_tonga=1F1F9.1F1F4",
    "flag_for_trinidad_&_tobago=1F1F9.1F1F9 flag_for_tristan_da_cunha=1F1F9.1F1E6",
    "flag_for_tunisia=1F1F9.1F1F3 flag_for_turkey=1F1F9.1F1F7 flag_for_turkmenistan=1F1F9.1F1F2",
    "flag_for_turks_&_caicos_islands=1F1F9.1F1E8 flag_for_tuvalu=1F1F9.1F1FB",
    "flag_for_u.s._outlying_islands=1F1FA.1F1F2 flag_for_u.s._virgin_islands=1F1FB.1F1EE",
    "flag_for_uganda=1F1FA.1F1EC flag_for_ukraine=1F1FA.1F1E6",
    "flag_for_united_arab_emirates=1F1E6.1F1EA flag_for_united_kingdom=1F1EC.1F1E7",
    "flag_for_united_states=1F1FA.1F1F8 flag_for_uruguay=1F1FA.1F1FE",
    "flag_for_uzbekistan=1F1FA.1F1FF flag_for_vanuatu=1F1FB.1F1FA",
    "flag_for_vatican_city=1F1FB.1F1E6 flag_for_venezuela=1F1FB.1F1EA",
    "flag_for_vietnam=1F1FB.1F1F3 flag_for_wallis_&_futuna=1F1FC.1F1EB",
    "flag_for_western_sahara=1F1EA.1F1ED flag_for_yemen=1F1FE.1F1EA flag_for_zambia=1F1FF.1F1F2",
    "flag_for_zimbabwe=1F1FF.1F1FC flag_for_åland_islands=1F1E6.1F1FD flag_in_hole=26F3",
    "flags=1F38F flamingo=1F9A9 flashlight=1F526 flat_shoe=1F97F fleur-de-lis=269C",
    "fleur__de__lis=269C flexed_biceps=1F4AA flexed_biceps_dark_skin_tone=1F4AA.1F3FF",
    "flexed_biceps_light_skin_tone=1F4AA.1F3FB flexed_biceps_medium-dark_skin_tone=1F4AA.1F3FE",
    "flexed_biceps_medium-light_skin_tone=1F4AA.1F3FC flexed_biceps_medium_skin_tone=1F4AA.1F3FD",
    "flipper=1F42C floppy_disk=1F4BE flower_playing_cards=1F3B4 flushed=1F633 flushed_face=1F633",
    "flying_disc=1F94F flying_saucer=1F6F8 fog=1F32B foggy=1F301 folded_hands=1F64F",
    "folded_hands_dark_skin_tone=1F64F.1F3FF folded_hands_light_skin_tone=1F64F.1F3FB",
    "folded_hands_medium-dark_skin_tone=1F64F.1F3FE",
    "folded_hands_medium-light_skin_tone=1F64F.1F3FC folded_hands_medium_skin_tone=1F64F.1F3FD",
    "foot=1F9B6 football=1F3C8 footprints=1F463 fork_and_knife=1F374",
    "fork_and_knife_with_plate=1F37D fortune_cookie=1F960 fountain=26F2 fountain_pen=1F58B",
    "four=34.FE0F.20E3 four-thirty=1F55F four_leaf_clover=1F340 four_o’clock=1F553 fox_face=1F98A",
    "frame_with_picture=1F5BC framed_picture=1F5BC france=1F1EB.1F1F7 free=1F193",
    "free_button=1F193 french_fries=1F35F french_guiana=1F1EC.1F1EB french_polynesia=1F1F5.1F1EB",
    "french_southern_territories=1F1F9.1F1EB fried_shrimp=1F364 fries=1F35F frog=1F438",
    "frog_face=1F438 front-facing_baby_chick=1F425 frowning=1F626 frowning_face=2639",
    "frowning_face_with_open_mouth=1F626 fuel_pump=26FD fuelpump=26FD full_moon=1F315",
    "full_moon_face=1F31D full_moon_with_face=1F31D funeral_urn=26B1"]

end StackManifest.Console.Emoji
